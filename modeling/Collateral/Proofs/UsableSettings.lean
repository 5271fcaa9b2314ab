import Collateral.Desk.Monitor
import Collateral.Proofs.BinaryDecimal
import Collateral.Proofs.CheckedSettings
import Collateral.Proofs.Extremes
import Collateral.Proofs.Overflows
import Collateral.Settings.Document

/-!
Contract: what settings that were accepted from a text can still make a desk refuse.

A check keeps a default haircut from lying below zero, so haircuts are never refused. It keeps the
targets finite, but not above minus one, and from there on downwards no deposit is solved for them.
Apart from a target and from the rule for margins, which may refuse what it likes, only arithmetic,
a missing path and a search that does not end stand between a company and its answers.

Owns: the targets that can be solved for, the causes for which the answers about a company fail, and
where a refused target shows.
-/

namespace Collateral

open Outcome (FailsBy)

theorem Settings.check_of_ofText {text : String} {settings : Settings}
    (accepted : Settings.ofText text = .ok settings) : settings.check = .ok () :=
  (readChecked_ok.1 accepted).2

/-! ## Targets -/

namespace Deposit

/-- A target from the least number above minus one that is not rounded to it, to the greatest number
below two to the ninety-six. -/
structure Usable (target : Float) : Prop where
  least_le : -0.9999999999999993 ≤ target
  le_greatest : target ≤ 79228162514264328797450928128

theorem exists_target_of_usable {target : Float} (usable : Usable target) :
    ∃ decimal, target? target = some decimal := by
  have leastParts : Binary.parts (-0.9999999999999993) = .finite true 9007199254740986 (-53) := by
    decide +kernel
  have greatestParts : Binary.parts 79228162514264328797450928128 =
      .finite false 9007199254740991 43 := by decide +kernel
  obtain ⟨least, leastIs⟩ : ∃ least, target? (-0.9999999999999993) = some least :=
    Option.isSome_iff_exists.1 (by decide +kernel)
  obtain ⟨negative, mantissa, exponent, taken⟩ := Binary.exists_parts_of_between usable.least_le
    usable.le_greatest leastParts greatestParts
  have small := Binary.exponent_le_of_between usable.least_le usable.le_greatest leastParts taken
    greatestParts
  obtain ⟨decimal, found⟩ := Decimal.exists_ofBinary? taken small
  obtain ⟨leastFound, above⟩ := Option.filter_eq_some_iff.1 leastIs
  have ordered := Decimal.ofBinary?_mono usable.least_le leastFound found
  refine ⟨decimal, Option.filter_eq_some_iff.2 ⟨found, ?_⟩⟩
  rw [decide_eq_true_eq, Decimal.lt_iff] at above ⊢
  exact above.trans_le (Decimal.le_iff.1 ordered)

/-- No deposit is solved for a target that does not lie above minus one. -/
theorem target?_eq_none_of_le {target : Float} (low : target ≤ -1) : target? target = none := by
  have oneIs : Decimal.ofBinary? (-1) = some (-1) := by decide +kernel
  rw [target?, Option.filter_eq_none_iff]
  intro decimal found above
  have ordered := Decimal.le_iff.1 (Decimal.ofBinary?_mono low found oneIs)
  rw [decide_eq_true_eq, Decimal.lt_iff] at above
  exact absurd ordered above.not_ge

end Deposit

/-! ## Causes of failure -/

/-- The failures of arithmetic and of conversions. -/
inductive Failure.OfFigures : Failure → Prop where
  | arithmetic (error : Decimal.Error) : OfFigures (.arithmetic error)
  | noPath (pair : FxPair) : OfFigures (.noPath pair)

namespace Failure.OfFigures

theorem lift_failsBy {α : Type} (step : Except Decimal.Error α) :
    FailsBy OfFigures (liftM step : Except Failure α) :=
  FailsBy.mapError (fun _ failed => failed) fun error _ => .arithmetic error

theorem liftConversion_failsBy {α : Type} (step : Except Spot.ConversionError α) :
    FailsBy OfFigures (liftM step : Except Failure α) := by
  refine FailsBy.mapError (fun _ failed => failed) fun error _ => ?_
  cases error with
  | noPath pair => exact .noPath pair
  | arithmetic error => exact .arithmetic error

end Failure.OfFigures

/-- The failures that a rule for margins gives. -/
def Calculator.Raises (calculator : Calculator) (failure : Failure) : Prop :=
  (∃ terms book, calculator.ofBook terms book = .error failure) ∨
    ∃ terms positions cash, calculator.ofHoldings terms positions cash = .error failure

/-- The haircut rule fails for its figures alone. -/
theorem Calculator.ofFigures_of_haircut [Rounding] {failure : Failure}
    (raises : Calculator.haircut.Raises failure) : failure.OfFigures := by
  have margins (terms : Terms) (book : Book) :
      FailsBy Failure.OfFigures (Margin.ofBook terms book) := by
    refine FailsBy.bind (FailsBy.mapM fun entry _ => ?_) fun buckets _ => ?_
    · exact (Failure.OfFigures.liftConversion_failsBy _).bind fun _ _ => .ok _
    · exact (Failure.OfFigures.lift_failsBy _).bind fun _ _ => Failure.OfFigures.lift_failsBy _
  rcases raises with ⟨terms, book, failed⟩ | ⟨terms, positions, cash, failed⟩
  · exact margins terms book failure failed
  · exact ((Failure.OfFigures.lift_failsBy _).bind fun book _ => margins terms book) failure failed

/-- The causes for which the answers about a company fail under checked settings. -/
inductive Desk.Cause (desk : Desk) : Failure → Prop where
  | figures {failure : Failure} (ofFigures : failure.OfFigures) : desk.Cause failure
  | noConvergence (iterations : Nat) (residual : Decimal) :
    desk.Cause (.noConvergence iterations residual)
  /-- A target of the settings is refused. -/
  | refused {target : Float}
    (chosen : target = desk.settings.minimumTarget ∨ target = desk.settings.recommendedTarget)
    (unsolvable : Deposit.target? target = none) : desk.Cause (.invalidTarget target)
  /-- The rule for margins gives up. -/
  | raised {failure : Failure} (raises : desk.calculator.Raises failure) : desk.Cause failure

namespace Desk

variable {desk : Desk}

theorem lift_failsBy {α : Type} (step : Except Decimal.Error α) :
    FailsBy desk.Cause (liftM step : Except Failure α) :=
  (Failure.OfFigures.lift_failsBy step).weaken fun _ => .figures

theorem liftConversion_failsBy {α : Type} (step : Except Spot.ConversionError α) :
    FailsBy desk.Cause (liftM step : Except Failure α) :=
  (Failure.OfFigures.liftConversion_failsBy step).weaken fun _ => .figures

theorem ofBook_failsBy (terms : Terms) (book : Book) :
    FailsBy desk.Cause (desk.calculator.ofBook terms book) :=
  fun _ failed => .raised (.inl ⟨terms, book, failed⟩)

theorem ofHoldings_failsBy (terms : Terms) (positions : List FxPosition)
    (cash : Table Currency Decimal) :
    FailsBy desk.Cause (desk.calculator.ofHoldings terms positions cash) :=
  fun _ failed => .raised (.inr ⟨terms, positions, cash, failed⟩)

section Projected

open Projection

variable [Rounding]

theorem hedgeAdd_failsBy (terms : Terms) (ratio : Decimal) (hedge : Hedge) (currency : Currency)
    (amount : Decimal) : FailsBy desk.Cause (hedge.add terms ratio currency amount) := by
  unfold Hedge.add
  split
  next => exact (lift_failsBy _).bind fun _ _ => .ok _
  next =>
    exact (liftConversion_failsBy _).bind fun _ _ => (lift_failsBy _).bind fun _ _ =>
      (lift_failsBy _).bind fun _ _ => (lift_failsBy _).bind fun _ _ => .ok _

theorem hedge_failsBy (terms : Terms) (walkers : List Walker) :
    FailsBy desk.Cause (hedge terms walkers) := by
  refine FailsBy.foldlM (fun walker _ held => ?_) _
  unfold Hedge.addWalker
  split
  next => exact .ok _
  next => exact .foldlM (fun entry _ held => hedgeAdd_failsBy terms _ held entry.1 entry.2) _

theorem snapshot_failsBy (terms : Terms) (summary : Summary)
    (additional : Table Currency Decimal) (date : Date) (held : Hedge) :
    FailsBy desk.Cause
      (snapshot ⟨desk.calculator, terms, summary⟩ additional date held) := by
  have after (before : Decimal) : FailsBy desk.Cause
      (marginAfter ⟨desk.calculator, terms, summary⟩ held.positions before additional) := by
    unfold marginAfter
    split
    next => exact .ok _
    next => exact (lift_failsBy _).bind fun cash _ => ofHoldings_failsBy terms held.positions cash
  unfold snapshot
  split
  next => exact .ok _
  next =>
    refine (ofHoldings_failsBy terms held.positions _).bind fun before _ => ?_
    exact (after before).bind fun _ _ => (lift_failsBy _).bind fun _ _ =>
      (lift_failsBy _).bind fun _ _ => .ok _

theorem walk_failsBy (terms : Terms) (summary : Summary) (additional : Table Currency Decimal)
    (walkers : List Walker) (dates : List Date) :
    FailsBy desk.Cause (walk ⟨desk.calculator, terms, summary⟩ additional walkers dates) := by
  induction dates generalizing walkers with
  | nil => exact .ok _
  | cons date dates inductionHypothesis =>
    refine (hedge_failsBy terms _).bind fun held _ => ?_
    exact (snapshot_failsBy terms summary additional date held).bind fun _ _ =>
      (inductionHypothesis _).bind fun _ _ => .ok _

end Projected

/-! ## The answers -/

section Answers

variable [Rounding] {company : Company} {date : Date} {kind : AccountKind} {days : Nat}
  {additional : Table Currency Decimal} {custom : Option Decimal}

/-- Where something is projected, the recommended target has been solved for. -/
theorem exists_target_of_recommendation [SummationOrder] {points : List Snapshot}
    {result : Recommendation}
    (projected : desk.projection company date kind additional days = .ok points)
    (something : points ≠ [])
    (recommended : desk.recommendation company date kind additional days = .ok result) :
    ∃ decimal, Deposit.target? desk.settings.recommendedTarget = some decimal := by
  obtain ⟨broker, summary, worst, -, -, found⟩ :=
    recommendation_of_ne_nil projected something recommended
  obtain ⟨book, terms, -, -, -, -, -, solved⟩ := recommendationFor_ok found
  obtain ⟨decimal, -, -, targetIs, -⟩ := Deposit.solve_ok solved
  exact ⟨decimal, targetIs⟩

theorem requiredCash_failsBy [SummationOrder] {grain : Rat} [Rounding.Lawful grain] (terms : Terms)
    (book : Book) {target : Float}
    (chosen : target = desk.settings.minimumTarget ∨ target = desk.settings.recommendedTarget) :
    FailsBy desk.Cause (desk.requiredCash terms book target) := by
  have covers : ∀ failure, Deposit.Search.Cause failure → desk.Cause failure := by
    rintro failure (⟨operation, rfl⟩ | ⟨iterations, residual, rfl⟩)
    · exact .figures (.arithmetic _)
    · exact .noConvergence iterations residual
  apply Deposit.solve_failsBy covers (fun refused => .refused chosen refused)
  · exact liftConversion_failsBy _
  · exact ofBook_failsBy terms book
  · intro total factor cash
    refine (lift_failsBy _).bind fun after _ => (lift_failsBy _).bind fun worth _ => ?_
    exact (ofBook_failsBy terms after).bind fun _ _ => (lift_failsBy _).bind fun _ _ =>
      lift_failsBy _

variable (checked : desk.settings.check = .ok ())

include checked

/-- Under checked settings no haircuts are refused. -/
theorem terms_failsBy (company : Company) (broker : BrokerAccount) :
    FailsBy desk.Cause (desk.terms company broker) := by
  obtain ⟨haircuts, found⟩ := exists_haircuts checked broker
  exact .of_ok (terms_of_haircuts company found)

theorem projection_failsBy :
    FailsBy desk.Cause (desk.projection company date kind additional days) := by
  unfold projection
  split
  next => exact .ok _
  next broker summary _ =>
    dsimp only
    split
    next => exact .ok _
    next =>
      exact (terms_failsBy checked company broker).bind fun terms _ =>
        walk_failsBy terms summary additional _ _

theorem detail_failsBy : FailsBy desk.Cause (desk.detail company date kind) := by
  unfold detail
  split
  next => exact .ok _
  next broker summary _ =>
    dsimp only
    split
    next => exact .ok _
    next =>
      refine (lift_failsBy _).bind fun book _ => ?_
      refine (terms_failsBy checked company broker).bind fun terms _ => ?_
      exact (ofBook_failsBy terms book).bind fun _ _ => (lift_failsBy _).bind fun _ _ => .ok _

variable {grain : Rat} [Rounding.Lawful grain]

include grain

theorem recommendation_failsBy [SummationOrder] :
    FailsBy desk.Cause (desk.recommendation company date kind additional days) := by
  refine (projection_failsBy checked).bind fun points _ => (lift_failsBy _).bind fun worst? _ => ?_
  split
  next worst broker summary _ _ =>
    refine (lift_failsBy _).bind fun book _ => ?_
    refine (terms_failsBy checked company broker).bind fun terms _ => ?_
    refine (lift_failsBy _).bind fun score _ => ?_
    have recommends : FailsBy desk.Cause
        (desk.requiredCash terms book desk.settings.recommendedTarget) :=
      requiredCash_failsBy terms book (.inr rfl)
    split
    next => exact (FailsBy.ok _).bind fun zero _ => recommends.bind fun _ _ => .ok _
    next =>
      exact (requiredCash_failsBy terms book (.inl rfl)).bind fun minimum _ =>
        recommends.bind fun _ _ => .ok _
  next => exact .ok _

theorem report_failsBy [SummationOrder] : FailsBy desk.Cause (desk.report company date custom) := by
  have projects (additional : Table Currency Decimal) : FailsBy desk.Cause
      (desk.projection company date .live additional desk.settings.daysToProject) :=
    projection_failsBy checked
  unfold report
  split
  next => exact .ok _
  next =>
    refine (recommendation_failsBy checked).bind fun recommendation _ => ?_
    -- With a custom amount and without one, all but the theoretical cash is found alike.
    split <;>
    refine FailsBy.bind ?_ fun cash _ => (projects _).bind fun _ _ => (projects _).bind fun _ _ =>
      (projects _).bind fun _ _ => (detail_failsBy checked).bind fun _ _ => .ok _
    · exact .ok _
    · exact lift_failsBy _

theorem check_failsBy [SummationOrder] : FailsBy desk.Cause (desk.check company date) := by
  refine (report_failsBy checked).bind fun report? _ => ?_
  cases report? with
  | none => exact .ok _
  | some report =>
    exact (lift_failsBy _).bind fun _ _ => (lift_failsBy _).bind fun _ _ =>
      (lift_failsBy _).bind fun _ _ => (lift_failsBy _).bind fun _ _ => .ok _

end Answers

/-- **Accepted settings are usable, but for a target that no deposit is solved for.** Every broker
account has haircuts. Where the rule for margins does not refuse anything itself, no haircut is
refused, and no target but one of the settings that is not usable. Under a recommended target that
is not above minus one there is a recommendation only where nothing is projected. -/
theorem usable_of_ofText [SummationOrder] {desk : Desk} {company : Company} {date : Date}
    {kind : AccountKind} {days : Nat} {additional : Table Currency Decimal}
    {custom : Option Decimal} {text : String}
    (accepted : Settings.ofText text = .ok desk.settings) :
    (∀ broker, ∃ haircuts, desk.haircuts broker = .ok haircuts) ∧
    (∀ failure, ¬desk.calculator.Raises failure →
      desk.recommendation company date kind additional days = .error failure ∨
        desk.report company date custom = .error failure ∨
        desk.check company date = .error failure →
      (∀ pair rate, failure ≠ .negativeHaircut pair rate) ∧
      (∀ rate, failure ≠ .negativeDefault rate) ∧
      ∀ target, failure = .invalidTarget target →
        (target = desk.settings.minimumTarget ∨ target = desk.settings.recommendedTarget) ∧
          ¬Deposit.Usable target) ∧
    (desk.settings.recommendedTarget ≤ -1 →
      ∀ result, desk.recommendation company date kind additional days = .ok result →
        desk.projection company date kind additional days = .ok []) := by
  have checked := Settings.check_of_ofText accepted
  refine ⟨fun broker => exists_haircuts checked broker, ?causes, ?refusal⟩
  case causes =>
    intro failure notRaised failed
    have cause : desk.Cause failure := by
      rcases failed with failed | failed | failed
      · exact recommendation_failsBy checked failure failed
      · exact report_failsBy checked failure failed
      · exact check_failsBy checked failure failed
    cases cause with
    | figures ofFigures => cases ofFigures <;> simp
    | noConvergence iterations residual => simp
    | raised raises => exact absurd raises notRaised
    | refused chosen unsolvable =>
      refine ⟨nofun, nofun, ?_⟩
      rintro target ⟨⟩
      refine ⟨chosen, fun usable => ?_⟩
      obtain ⟨decimal, targetIs⟩ := Deposit.exists_target_of_usable usable
      rw [unsolvable] at targetIs
      cases targetIs
  case refusal =>
    intro low result recommended
    obtain ⟨points, projected, -⟩ := Outcome.bind_ok.1 recommended
    by_cases nothing : points = []
    · rw [projected, nothing]
    · obtain ⟨decimal, targetIs⟩ :=
        exists_target_of_recommendation projected nothing recommended
      rw [Deposit.target?_eq_none_of_le low] at targetIs
      cases targetIs

/-! ## A target out of reach -/

open Projection (day figure whole)

/-- The recommended target asks for less than no equity at all. -/
private def belowNothing : String :=
  "\x7b\"recommended_target_health\":-2\x7d"

private def overdrawn : Desk :=
  sample { recommendedTarget := -2 } (figure false 250) [sampleEntry (day 10) 1000 1000]

/-- The settings are accepted, and the target is refused as soon as a date is projected. -/
theorem usable_of_ofText_overdrawn :
    Settings.ofText belowNothing = .ok overdrawn.settings ∧
    (∃ haircuts, overdrawn.haircuts sampleBroker = .ok haircuts) ∧
    overdrawn.recommendation sampleCompany (day 10) .live .empty 30 =
      .error (.invalidTarget (-2)) ∧
    ((-2 : Float) = overdrawn.settings.minimumTarget ∨
        (-2 : Float) = overdrawn.settings.recommendedTarget) ∧
      ¬Deposit.Usable (-2) ∧
    overdrawn.projection sampleCompany (day 11) .live .empty 30 = .ok [] := by
  have accepted : Settings.ofText belowNothing = .ok overdrawn.settings := by decide +kernel
  have refused : overdrawn.recommendation sampleCompany (day 10) .live .empty 30 =
      .error (.invalidTarget (-2)) := by decide +kernel
  have recommended : overdrawn.recommendation sampleCompany (day 11) .live .empty 30 =
      .ok {} := by decide +kernel
  have notRaised : ¬overdrawn.calculator.Raises (.invalidTarget (-2)) := by
    intro raises
    cases Calculator.ofFigures_of_haircut raises
  obtain ⟨haircuts, causes, -⟩ := @usable_of_ofText _ overdrawn sampleCompany (day 10) .live 30
    .empty none belowNothing accepted
  obtain ⟨-, -, nothing⟩ := @usable_of_ofText _ overdrawn sampleCompany (day 11) .live 30
    .empty none belowNothing accepted
  obtain ⟨-, -, targetIs⟩ := causes (.invalidTarget (-2)) notRaised (.inl refused)
  obtain ⟨chosen, unusable⟩ := targetIs (-2) rfl
  exact ⟨accepted, haircuts sampleBroker, refused, chosen, unusable,
    nothing (by decide +kernel) {} recommended⟩

/-- A desk whose rule for margins refuses a haircut of its own. -/
private def choosy : Desk :=
  { sample {} (figure false 250) [sampleEntry (day 10) 1000 1000] with
    calculator := {
      ofBook _ _ := .error (.negativeDefault (figure true 1))
      ofHoldings _ _ _ := .error (.negativeDefault (figure true 1)) } }

/-- Accepted settings can hold a target that makes every answer fail, and a rule for margins can
refuse a haircut under the usual ones. -/
theorem fails_of_accepted :
    Settings.ofText belowNothing = .ok overdrawn.settings ∧
    overdrawn.recommendation sampleCompany (day 10) .live .empty 30 =
      .error (.invalidTarget (-2)) ∧
    overdrawn.report sampleCompany (day 10) none = .error (.invalidTarget (-2)) ∧
    overdrawn.check sampleCompany (day 10) = .error (.invalidTarget (-2)) ∧
    Settings.ofText "\x7b\x7d" = .ok choosy.settings ∧
    choosy.recommendation sampleCompany (day 10) .live .empty 30 =
      .error (.negativeDefault (figure true 1)) := by
  refine ⟨?_, ?_, ?_, ?_, ?_, ?_⟩ <;> decide +kernel

end Desk

end Collateral
