import Collateral.Document.Numeral
import Collateral.Document.Quoted

/-!
Contract: from a JSON text to its nodes.

Blanks may stand around every value and mark. A comma promises another item or member, so what
stands behind it is one more node even where no value begins there, and one more member even where
no key does. Behind the value of the whole
text nothing but blanks may stand.
-/

namespace Collateral.Document

def dropBlanks (text : List Char) : List Char :=
  text.dropWhile fun character => [' ', '\n', '\t', '\r'].contains character

/-- The fault of a text that goes on with something unexpected, or ends. -/
def unexpected (rest : List Char) : Fault :=
  if rest.isEmpty then .truncated else .malformed

/-- Takes the letters of a word off a text, and gives a node if all are there. -/
def takeWord (node : Node) : (letters text : List Char) → Node × List Char
  | [], rest => (node, rest)
  | _ :: _, [] => (.broken .truncated, [])
  | letter :: letters, character :: rest =>
    if letter = character then takeWord node letters rest else (.broken .malformed, rest)

mutual

/-- Takes a value off a text. -/
def takeNode : (steps : Nat) → List Char → Node × List Char
  | 0, _ => (.absent .truncated, [])
  | steps + 1, text =>
    match dropBlanks text with
    | [] => (.absent .truncated, [])
    | 'n' :: rest => takeWord .null ['u', 'l', 'l'] rest
    | 't' :: rest => takeWord (.flag true) ['r', 'u', 'e'] rest
    | 'f' :: rest => takeWord (.flag false) ['a', 'l', 's', 'e'] rest
    | '"' :: rest =>
      let (quoted, rest) := Quoted.take rest
      (.text quoted, rest)
    | '[' :: rest =>
      match dropBlanks rest with
      | ']' :: rest => (.list [] (.ok ()), rest)
      | rest =>
        if rest.isEmpty then (.list [] (.error .truncated), [])
        else
          let (items, ending, rest) := takeItems steps rest
          (.list items ending, rest)
    | '{' :: rest =>
      match dropBlanks rest with
      | '}' :: rest => (.record [] (.ok ()), rest)
      | rest =>
        let (members, ending, rest) := takeMembers steps rest
        (.record members ending, rest)
    | character :: rest =>
      if character = '-' ∨ Digits.isDigit character then
        let (numeral, rest) := Numeral.take (character :: rest)
        (.number numeral, rest)
      else (.absent .malformed, rest)

/-- Takes the items of a list off a text, up to the closing bracket. -/
def takeItems : (steps : Nat) → List Char → List Node × Except Fault Unit × List Char
  | 0, _ => ([], .error .truncated, [])
  | steps + 1, text =>
    let (item, rest) := takeNode steps text
    match dropBlanks rest with
    | ',' :: rest =>
      let (items, ending, rest) := takeItems steps rest
      (item :: items, ending, rest)
    | ']' :: rest => ([item], .ok (), rest)
    | rest => ([item], .error (unexpected rest), rest)

/-- Takes the members of a record off a text, up to the closing brace. A key has to be quoted. -/
def takeMembers : (steps : Nat) → List Char →
    List (Part String × Node) × Except Fault Unit × List Char
  | 0, _ => ([], .error .truncated, [])
  | steps + 1, text =>
    match dropBlanks text with
    | '"' :: rest =>
      let (key, rest) := Quoted.take rest
      match dropBlanks rest with
      | ':' :: rest =>
        let (value, rest) := takeNode steps rest
        match dropBlanks rest with
        | ',' :: rest =>
          let (members, ending, rest) := takeMembers steps rest
          ((key, value) :: members, ending, rest)
        | '}' :: rest => ([(key, value)], .ok (), rest)
        | rest => ([(key, value)], .error (unexpected rest), rest)
      | rest => ([(key, .absent (unexpected rest))], .error (unexpected rest), rest)
    | rest =>
      let fault := unexpected rest
      ([(.missing fault, .absent fault)], .error fault, rest)

end

/-- The value of a whole text, and what is wrong behind it. -/
structure Source where
  root : Node
  ending : Except Fault Unit

/-- The value of a whole text. Every step into a value takes a character of it, and a list or a
record takes a further step, so twice as many steps as characters suffice. -/
def Source.ofText (text : String) : Source :=
  let characters := text.toList
  let (root, rest) := takeNode (2 * characters.length + 2) characters
  ⟨root, if (dropBlanks rest).isEmpty then .ok () else .error .malformed⟩

def Source.read {α : Type} (source : Source) (reader : Reader α) : Except Fault α := do
  let value ← reader source.root
  source.ending
  return value

def read {α : Type} (reader : Reader α) (text : String) : Except Fault α :=
  (Source.ofText text).read reader

end Collateral.Document
