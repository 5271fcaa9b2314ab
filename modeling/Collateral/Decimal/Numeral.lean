import Collateral.Decimal.Figure

/-!
Contract: reading a figure from text.

A plain numeral is an optional sign and digits with at most one point; underscores may stand
anywhere behind the first digit. The figure keeps the places as written. Whole digits beyond
ninety-six bits are refused. Digits behind the point are cut off at the twenty-eighth place, or
where the coefficient is full, by rounding half up on the next digit. What is cut off still has to
be digits and underscores.

Where the whole text is no plain numeral, it may be one with a power of ten behind an `e`.
-/

namespace Collateral.Figure

/-- A figure with the given sign, where magnitude and places are within bounds. -/
def ofParts? (negative : Bool) (magnitude places : Nat) : Option Figure :=
  if bounded : magnitude < coefficientLimit ∧ places ≤ placesLimit then
    some ⟨negative, magnitude, places, bounded⟩
  else none

/-- A coefficient is short as long as it stays below this bound: sixty-four bits have room for one
digit more. -/
def shortLimit : Nat := ((1 : Nat) <<< 64) / 10 - 255

/-- Whether only digits and separators stand in a text. -/
private def isCountable (text : List Char) : Bool :=
  text.all fun character => character = '_' || Digits.isDigit character

/-- The digit that a cut in front of `tail` rounds by: the next one behind any separators, or zero
where there is none. A separator right at the cut counts as zero itself where the coefficient was
short up to its last digit. -/
private def cutDigit? (coefficient : Nat) (tail : List Char) : Option Nat :=
  if !isCountable tail then none
  else if coefficient / 10 < shortLimit ∧ tail.head? = some '_' then some 0
  else match tail.dropWhile (· = '_') with
    | [] => some 0
    | digit :: _ => Digits.value? digit

/-- Cuts a coefficient off in front of `tail`, rounding half up. Where that fills the coefficient,
one place is given up. -/
private def cut? (coefficient places : Nat) (tail : List Char) : Option (Nat × Nat) := do
  let digit ← cutDigit? coefficient tail
  if digit < 5 then return (coefficient, places)
  if coefficient + 1 < coefficientLimit then return (coefficient + 1, places)
  match places with
  | 0 => none
  | fewer + 1 => return ((coefficient + 5) / 10, fewer)

/-- Coefficient and places of unsigned digits. `places` is `none` until the point is read. -/
private def unsigned? (coefficient : Nat) (places : Option Nat) (started : Bool) :
    List Char → Option (Nat × Nat)
  | [] => if started then some (coefficient, places.getD 0) else none
  | character :: rest =>
    if places = some placesLimit then cut? coefficient placesLimit (character :: rest)
    else match Digits.value? character with
      | some digit =>
        if 10 * coefficient + digit < coefficientLimit then
          unsigned? (10 * coefficient + digit) (places.map (· + 1)) true rest
        else match places with
          | none => none
          | some places => cut? coefficient places (character :: rest)
      | none =>
        if character = '.' ∧ places = none then unsigned? coefficient (some 0) started rest
        else if character = '_' ∧ started then unsigned? coefficient places started rest
        else none

/-- Splits off a leading sign; the first part says whether it was a minus. -/
private def signOf : List Char → Bool × List Char
  | '-' :: rest => (true, rest)
  | '+' :: rest => (false, rest)
  | text => (false, text)

/-- Reads a plain numeral. Zero is read without its sign. -/
def ofPlain? (text : List Char) : Option Figure := do
  let (negative, digits) := signOf text
  let (coefficient, places) ← unsigned? 0 none false digits
  ofParts? (negative && coefficient != 0) coefficient places

private def exponent? : List Char → Option Nat
  | '+' :: digits => Digits.number? digits
  | digits => Digits.number? digits

/-- The figure times `10 ^ exponent`. The exponent uses up places first. -/
def raise? (figure : Figure) (exponent : Nat) : Option Figure :=
  if exponent ≤ figure.places then
    ofParts? figure.negative figure.magnitude (figure.places - exponent)
  else if exponent ≤ placesLimit then
    ofParts? figure.negative (figure.magnitude * Digits.tenTo (exponent - figure.places)) 0
  else none

/-- The figure over `10 ^ exponent`. Where that needs more than twenty-eight places, the digits in
excess are rounded off, half up; what comes to zero keeps its sign. -/
def lower? (figure : Figure) (exponent : Nat) : Option Figure :=
  if exponent ≤ placesLimit then
    let excess := figure.places + exponent - placesLimit
    let unit := Digits.tenTo excess
    let rounded := (figure.magnitude + unit / 2) / unit
    ofParts? figure.negative rounded (figure.places + exponent - excess)
  else none

/-- Reads a plain numeral with a power of ten behind it. -/
def ofScientific? (text : List Char) : Option Figure :=
  let isMark := fun character : Char => character = 'e' || character = 'E'
  let mantissa := text.takeWhile (!isMark ·)
  match text.dropWhile (!isMark ·) with
  | [] => none
  | _ :: '-' :: digits => do (← ofPlain? mantissa).lower? (← exponent? digits)
  | _ :: digits => do (← ofPlain? mantissa).raise? (← exponent? digits)

/-- Reads a figure: a plain numeral, or else one with a power of ten. -/
def ofText? (text : String) : Option Figure :=
  ofPlain? text.toList <|> ofScientific? text.toList

end Collateral.Figure
