import Collateral.Calendar.Date
import Collateral.Currency
import Collateral.Decimal.Basic
import Collateral.Sorting

/-!
Contract: schedules of exposure, and reading them forward in time.

An entry holds from its date until the next entry of the same schedule supersedes it. A cursor
stands at one entry of a schedule and only ever moves forward, past every entry that is dated on
or before the date asked for and stands directly ahead.

Owns: schedules in date order, schedules kept as written, and the cursor.
-/

namespace Collateral

/-- The amounts outstanding per currency from a date onwards. -/
structure Exposure where
  date : Date
  amounts : List (Currency × Decimal)
deriving DecidableEq, Repr, Inhabited

structure Schedule where
  entries : List Exposure := []
deriving DecidableEq, Repr, Inhabited

/-- A place in a schedule: the entry reached, and those ahead. -/
structure Cursor where
  current : Option Exposure
  ahead : List Exposure
deriving DecidableEq, Repr, Inhabited

namespace Schedule

/-- The schedule of entries in order of their dates; entries of one date keep their order. -/
def ofEntries (entries : List Exposure) : Schedule :=
  ⟨sortBy (fun left right => left.date ≤ right.date) entries⟩

def dates (schedule : Schedule) : List Date :=
  schedule.entries.map Exposure.date

def start (schedule : Schedule) : Cursor :=
  ⟨none, schedule.entries⟩

end Schedule

namespace Cursor

/-- Moves past the leading entries that are dated on or before a date. -/
def advanceOver (current : Option Exposure) (date : Date) : List Exposure → Cursor
  | [] => ⟨current, []⟩
  | entry :: rest =>
    if entry.date ≤ date then advanceOver (some entry) date rest
    else ⟨current, entry :: rest⟩

/-- The cursor moved up to a date. For a date that lies behind, it stays. -/
def advance (cursor : Cursor) (date : Date) : Cursor :=
  advanceOver cursor.current date cursor.ahead

end Cursor

end Collateral
