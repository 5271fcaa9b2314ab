import Collateral.Document.Quoted

/-!
Contract: universally unique identifiers as texts.

Thirty-two hexadecimal digits, plain or in groups of eight, four, four, four and twelve with
hyphens between; the grouped form may stand in braces or behind `urn:uuid:`. Capital and small
letters are alike. The normal form is grouped, with small letters.
-/

namespace Collateral.Document.Identifier

/-- The digits of an identifier, in small letters, if all are hexadecimal and none is missing. -/
def digits? (text : List Char) : Option (List Char) :=
  if text.length = 32 ∧ text.all (fun character => (Quoted.hexDigit? character).isSome) then
    some (text.map Char.toLower)
  else none

/-- Puts hyphens between the groups of the digits. -/
def grouped (digits : List Char) : String :=
  let group (start size : Nat) := (digits.drop start).take size
  String.ofList (['-'].intercalate [group 0 8, group 8 4, group 12 4, group 16 4, group 20 12])

def ungrouped? (text : List Char) : Option (List Char) :=
  let hyphens := [8, 13, 18, 23]
  if text.length = 36 ∧ hyphens.all (fun place => text[place]? = some '-') then
    digits? (text.filter (· ≠ '-'))
  else none

/-- The name that may stand in front of the grouped form. -/
def scheme : List Char := ['u', 'r', 'n', ':', 'u', 'u', 'i', 'd', ':']

def normal? (text : String) : Option String :=
  let characters := text.toList
  let digits :=
    if characters.length = 32 then digits? characters
    else if characters.length = 36 then ungrouped? characters
    else if characters.length = 38 then
      if characters.head? = some '\x7b' ∧ characters.getLast? = some '\x7d' then
        ungrouped? (characters.drop 1).dropLast
      else none
    else if characters.length = 45 then
      if (characters.take 9).map Char.toLower = scheme then ungrouped? (characters.drop 9) else none
    else none
  digits.map grouped

end Collateral.Document.Identifier
