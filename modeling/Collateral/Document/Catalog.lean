import Collateral.Document.Identifier
import Collateral.Settings.Document
import Collateral.Health

/-!
Contract: the documents of the library and their normal form.

Reading a document in its format gives the tree in which it is written again: every field of a
record under its own name, figures with the places they came with, dates and identifiers in their
normal text. Nothing but the form of a document is checked.
-/

namespace Collateral.Document

/-- What is written. -/
inductive Tree where
  | null
  | flag (value : Bool)
  | count (number : Nat)
  | real (number : Float)
  | text (content : String)
  | list (items : List Tree)
  | record (members : List (String × Tree))

/-- A form of document, as the reader of its tree. -/
abbrev Format : Type := Reader Tree

namespace Format

/-- A format whose values are written by a function. -/
def of {α : Type} (reader : Reader α) (write : α → Tree) : Format :=
  fun node => write <$> reader node

def text : Format := of readText .text

/-- A figure, written as a text with all its places. -/
def figure : Format := of readFigure fun figure => .text figure.toText

def flag : Format := of readFlag .flag

def real : Format := of readReal .real

def date : Format := of readDate fun date => .text date.toText

def instant : Format := of (readParsed Instant.ofText?) fun instant => .text instant.toText

def identifier : Format := of (readParsed Identifier.normal?) .text

def word (words : List String) : Format :=
  of (readWord fun word => if words.contains word then some word else none) .text

def option (format : Format) : Format :=
  of (readOption format) fun value => value.getD .null

def list (format : Format) : Format := of (readList format) .list

def pair (first second : Format) : Format :=
  of (readPair first second) fun (left, right) => .list [left, right]

def table (format : Format) : Format :=
  of (readTable format) fun entries => .record (Table.ofList entries).entries

/-- A record whose fields must all be given, those that may be null excepted. -/
def record (fields : List (String × Format)) (optional : List (String × Format) := []) : Format :=
  let nullable := optional.map fun (name, format) => (name, format.option)
  let shape : Shape := { fields := (fields ++ nullable).map fun (name, format) => .of name format }
  fun node => do
    let given ← shape.read node
    let required ← fields.mapM fun (name, format) => return (name, ← given.get name format)
    let further ← nullable.mapM fun (name, format) =>
      return (name, ← given.getD name format .null)
    return .record (required ++ further)

end Format

/-! ## Written forms -/

def Tree.ofFigure (figure : Figure) : Tree := .text figure.toText

def Tree.ofHedgeSettings (settings : HedgeSettings) : Tree :=
  .record [
    ("target_vol_reduction_ratio", ofFigure settings.ratio),
    ("margin_budget", (settings.budget.map ofFigure).getD .null)]

def Tree.ofSearchSettings (settings : SearchSettings) : Tree :=
  .record [
    ("tolerance", ofFigure settings.tolerance),
    ("max_iterations", .count settings.maxIterations)]

def Tree.ofSettings (settings : Settings) : Tree :=
  .record [
    ("margin_multiplier", ofFigure settings.multiplier),
    ("days_to_project", .count settings.daysToProject),
    ("minimum_target_health", .real settings.minimumTarget),
    ("recommended_target_health", .real settings.recommendedTarget),
    ("deposit_required_level", .real settings.depositLevel),
    ("default_haircut_rate", ofFigure settings.defaultHaircut),
    ("solver", ofSearchSettings settings.search)]

def Tree.ofAccount (account : Account) : Tree :=
  .record [
    ("id", .text account.id.name),
    ("company", .text account.company.name),
    ("account_type", .text account.kind.name),
    ("is_active", .flag account.active),
    ("hedge_settings", (account.hedge.map ofHedgeSettings).getD .null)]

def Tree.ofBrokerAccount (account : BrokerAccount) : Tree :=
  .record [
    ("broker", .text account.broker.name),
    ("name", .text account.name),
    ("account_type", .text account.kind.name)]

/-! ## The catalog -/

namespace Format

def accountKind : Format :=
  word ([.live, .demo].map AccountKind.name)

def grade : Format :=
  word ([.excess, .healthy, .depositRequired, .liquidation].map Grade.name)

def fxPair : Format :=
  record [("base", text), ("quote", text)]

def fxPosition : Format :=
  record [("pair", fxPair), ("amount", figure), ("reference_price", figure)]

def company : Format :=
  record [("id", text), ("currency", text)]

def hedgeSettings : Format := of HedgeSettings.read Tree.ofHedgeSettings

def searchSettings : Format := of SearchSettings.read Tree.ofSearchSettings

def settings : Format := of Settings.read Tree.ofSettings

def account : Format :=
  record
    [("id", text), ("company", text), ("account_type", accountKind), ("is_active", flag)]
    [("hedge_settings", hedgeSettings)]

def brokerAccount : Format :=
  record [("broker", text), ("name", text), ("account_type", accountKind)]

def summary : Format :=
  record [
    ("init_margin", figure), ("maint_margin", figure), ("excess_liquidity", figure),
    ("additional_cash", figure), ("equity_with_loan_value", figure)]

def exposure : Format :=
  record [("date", date), ("exposures", list (pair text figure))]

def schedule : Format :=
  record [("entries", list exposure)]

def snapshot : Format :=
  record [
    ("date", date), ("amount_before_deposit", figure), ("amount_after_deposit", figure),
    ("excess", figure), ("total_hedge", figure), ("positions", list fxPosition)]

def health : Format :=
  record [("ratio", real)]

def dailyHealth : Format :=
  record [
    ("company", text), ("date", date), ("worst_margin_health", real),
    ("best_margin_health", real)]

def recommendation : Format :=
  record [("minimum", figure), ("recommended", figure)]

def detail : Format :=
  record [
    ("id", identifier), ("company", text), ("date", date), ("margin_requirement", figure),
    ("excess_liquidity", figure), ("computed_at", instant)]

def report : Format :=
  record [
    ("margin_detail", detail), ("minimum_deposit_or_withdrawal", figure),
    ("recommended_deposit_or_withdrawal", figure), ("pending_cash", figure),
    ("baseline_margin", list snapshot), ("projected_margins_pending", list snapshot),
    ("projected_margins_theoretical", list snapshot), ("multiplier", figure)]

end Format

end Collateral.Document
