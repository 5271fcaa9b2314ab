/-!
Contract: calendar dates.

Dates are counted in days, so that order, equality and the length of a horizon are those of whole
numbers. The calendar is the Gregorian one carried on without end in both directions, with a year
zero; it has a first and a last date.

Owns: dates and their bounds, the step to the day before, the capped step ahead, and the passage
to and from year, month and day.

Does not own: texts of dates.
-/

namespace Collateral

/-- A date as it stands in a calendar; not every triple is one. -/
structure Civil where
  year : Int
  month : Nat
  day : Nat
deriving DecidableEq, Repr

namespace Civil

/-- Whether a year has a twenty-ninth of February. -/
def leap (year : Int) : Bool :=
  year % 4 = 0 && (year % 100 ≠ 0 || year % 400 = 0)

/-- The number of days of a month; zero for a month that does not exist. -/
def monthLength (year : Int) (month : Nat) : Nat :=
  match month with
  | 2 => if leap year then 29 else 28
  | 4 | 6 | 9 | 11 => 30
  | 1 | 3 | 5 | 7 | 8 | 10 | 12 => 31
  | _ => 0

def Valid (civil : Civil) : Prop :=
  1 ≤ civil.day ∧ civil.day ≤ monthLength civil.year civil.month

instance (civil : Civil) : Decidable civil.Valid := by
  unfold Valid
  infer_instance

/-- The number of days in four centuries, after which the calendar repeats. -/
def eraLength : Int := 146097

/-- The days from 1970-01-01 to a date. Years are taken to begin in March, so that the day that a
leap year adds is the last of its year. -/
def dayNumber (civil : Civil) : Int :=
  let year := if civil.month ≤ 2 then civil.year - 1 else civil.year
  let era := year / 400
  let yearOfEra := year % 400
  let month : Int := (civil.month + 9) % 12
  let dayOfYear := (153 * month + 2) / 5 + civil.day - 1
  era * eraLength + yearOfEra * 365 + yearOfEra / 4 - yearOfEra / 100 + dayOfYear - 719468

/-- The date that lies the given number of days after 1970-01-01. -/
def ofDayNumber (number : Int) : Civil :=
  let shifted := number + 719468
  let era := shifted / eraLength
  let dayOfEra := shifted % eraLength
  let yearOfEra :=
    (dayOfEra - dayOfEra / 1460 + dayOfEra / 36524 - dayOfEra / 146096) / 365
  let dayOfYear := dayOfEra - (365 * yearOfEra + yearOfEra / 4 - yearOfEra / 100)
  let month := (5 * dayOfYear + 2) / 153
  let day := dayOfYear - (153 * month + 2) / 5 + 1
  let year := yearOfEra + era * 400
  if month < 10 then ⟨year, (month + 3).toNat, day.toNat⟩
  else ⟨year + 1, (month - 9).toNat, day.toNat⟩

end Civil

/-- The day of the first date, 1 January of the year -262143. -/
def firstDay : Int := Civil.dayNumber ⟨-262143, 1, 1⟩

/-- The day of the last date, 31 December of the year 262142. -/
def lastDay : Int := Civil.dayNumber ⟨262142, 12, 31⟩

/-- A date, counted in days from 1970-01-01. -/
structure Date where
  day : Int
  firstDay_le : firstDay ≤ day
  le_lastDay : day ≤ lastDay
deriving DecidableEq, Repr

namespace Date

def ofDay? (day : Int) : Option Date :=
  if within : firstDay ≤ day ∧ day ≤ lastDay then some ⟨day, within.1, within.2⟩ else none

def last : Date := ⟨lastDay, by decide, Int.le_refl _⟩

instance : Inhabited Date := ⟨⟨0, by decide, by decide⟩⟩

/-- The date with the given year, month and day, where there is one. -/
def ofCivil? (civil : Civil) : Option Date :=
  if civil.Valid then ofDay? civil.dayNumber else none

def civil (date : Date) : Civil :=
  .ofDayNumber date.day

instance : LE Date := ⟨fun left right => left.day ≤ right.day⟩
instance : LT Date := ⟨fun left right => left.day < right.day⟩

instance (left right : Date) : Decidable (left ≤ right) :=
  inferInstanceAs (Decidable (left.day ≤ right.day))

instance (left right : Date) : Decidable (left < right) :=
  inferInstanceAs (Decidable (left.day < right.day))

/-- The date so many days ahead; the last date where the calendar ends before. -/
def ahead (date : Date) (days : Nat) : Date :=
  (ofDay? (date.day + days)).getD last

/-- The day before; the first date has none. -/
def previous? (date : Date) : Option Date :=
  ofDay? (date.day - 1)

end Date

end Collateral
