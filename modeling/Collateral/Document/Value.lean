import Collateral.Binary.Decimal
import Collateral.Calendar.Text
import Collateral.Decimal.Numeral
import Collateral.Document.Node

/-!
Contract: reading single values, lists and maps from nodes.

Each reader accepts one kind of node and looks at its parts from left to right, so that it raises
the first fault of the text. A text or a number of the right kind but without meaning, such as a
date that does not exist, is mismatched.
-/

namespace Collateral.Document

/-- The value where there is one; otherwise the text is not of the expected form. -/
def expect {α : Type} : Option α → Except Fault α
  | some value => .ok value
  | none => .error .mismatched

def refuse {α : Type} (node : Node) : Except Fault α :=
  .error node.mismatch

def readText : Reader String
  | .text quoted => quoted.reading
  | node => refuse node

/-- Reads a text that stands for something. -/
def readParsed {α : Type} (parse : String → Option α) : Reader α := fun node => do
  expect (parse (← readText node))

def readFlag : Reader Bool
  | .flag value => .ok value
  | node => refuse node

/-- Reads a whole number up to a bound. -/
def readCount (greatest : Nat) : Reader Nat
  | .number numeral => do
    match ← numeral.reading with
    | .natural number => if number ≤ greatest then .ok number else .error .mismatched
    | _ => .error .mismatched
  | node => refuse node

/-- Reads a binary number, which may be written as a whole one. -/
def readReal : Reader Float
  | .number numeral => do
    match ← numeral.reading with
    | .natural number => .ok (Float.ofNat number)
    | .negative magnitude => .ok (-Float.ofNat magnitude)
    | .real number => .ok number
  | node => refuse node

/-- The figure of a number: a whole one as it stands, a binary one by its shortest digits. -/
def Number.figure? : Number → Option Figure
  | .natural number => Figure.ofParts? false number 0
  | .negative magnitude => Figure.ofParts? true magnitude 0
  | .real number => Figure.ofBinary? number

/-- Reads a figure, which may be written as a text or as a number. -/
def readFigure : Reader Figure
  | .text quoted => do expect (Figure.ofText? (← quoted.reading))
  | .number numeral => do expect (← numeral.reading).figure?
  | node => refuse node

def readDecimal : Reader Decimal := fun node => Figure.value <$> readFigure node

def readDate : Reader Date := readParsed Date.ofText?

def readOption {α : Type} (reader : Reader α) : Reader (Option α)
  | .null => .ok none
  | node => some <$> reader node

def readList {α : Type} (reader : Reader α) : Reader (List α)
  | .list items ending => do
    let values ← items.mapM reader
    ending
    return values
  | node => refuse node

/-- The items of a list of exactly `size` items, with the faults of its end. An item too many is
malformed; a list that ends too early is truncated or mismatched. -/
def endOf (size : Nat) (items : List Node) (ending : Except Fault Unit) : Except Fault Unit :=
  if size < items.length then .error .malformed else ending

def readPair {α β : Type} (first : Reader α) (second : Reader β) : Reader (α × β)
  | .list (left :: right :: rest) ending => do
    let left ← first left
    let right ← second right
    endOf 0 rest ending
    return (left, right)
  | .list [left] ending => do
    let _ ← first left
    ending
    .error .mismatched
  | .list [] ending => do
    ending
    .error .mismatched
  | node => refuse node

/-- Reads one of several words. A word may also be written as the only key of a record that holds
null. Anything else is malformed, not mismatched. -/
def readWord {α : Type} (word? : String → Option α) : Reader α
  | .text quoted => do expect (word? (← quoted.reading))
  | .record [] ending => do
    ending
    .error .malformed
  | .record ((key, value) :: members) ending => do
    let word ← expect (word? (← key.reading))
    match value with
    | .null => if members.isEmpty then (fun _ => word) <$> ending else .error .malformed
    | value => refuse value
  | .absent fault => .error fault
  | _ => .error .malformed

/-- Reads a map with texts for keys; the last value of a key counts. -/
def readTable {α : Type} (reader : Reader α) : Reader (List (String × α))
  | .record members ending => do
    let entries ← members.mapM fun (key, value) => do
      let key ← key.reading
      return (key, ← reader value)
    ending
    return entries
  | node => refuse node

end Collateral.Document
