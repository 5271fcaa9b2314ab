/-!
Contract: what a JSON text holds, together with what is wrong with it.

A text is read against an expected form from left to right, and the first fault counts. Which
fault comes first depends on the form: a value nobody asks for is only skipped, and skipping is
more lenient than reading. So a text is first turned into nodes that keep every fault in its
place, and a reader that goes through the nodes from left to right meets the faults in order.

Nothing follows a fault that ends the text: a list or a record that breaks off has an ending with
the fault. A word that breaks off, and a place where no value begins, are nodes of their own.

Owns: faults, nodes, skipping a node, and the fault of a node of the wrong kind.
-/

namespace Collateral.Document

/-- What is wrong with a text. -/
inductive Fault where
  /-- The text is not JSON. -/
  | malformed
  /-- The text ends too early. -/
  | truncated
  /-- The text is JSON, but not of the expected form. -/
  | mismatched
deriving DecidableEq, Repr

/-- A number. Whole numbers are told apart as long as they fit sixty-four bits. -/
inductive Number where
  | natural (number : Nat)
  | negative (magnitude : Nat)
  | real (number : Float)
deriving DecidableEq, Repr

/-- A part of a text that can be read for its content or skipped. -/
structure Part (α : Type) where
  reading : Except Fault α
  skipping : Except Fault Unit

/-- A part that can neither be read nor skipped. -/
def Part.missing {α : Type} (fault : Fault) : Part α :=
  ⟨.error fault, .error fault⟩

/-- What stands in the place of a value. A list and a record end with the fault that broke them
off, if one did. -/
inductive Node where
  | null
  | flag (value : Bool)
  | number (numeral : Part Number)
  | text (quoted : Part String)
  | list (items : List Node) (ending : Except Fault Unit)
  | record (members : List (Part String × Node)) (ending : Except Fault Unit)
  | broken (fault : Fault)
  | absent (fault : Fault)

/-- A reader of one form of value. -/
abbrev Reader (α : Type) : Type := Node → Except Fault α

namespace Node

mutual

/-- Goes past a value without looking at its content. -/
def skip : Node → Except Fault Unit
  | .null => .ok ()
  | .flag _ => .ok ()
  | .number numeral => numeral.skipping
  | .text quoted => quoted.skipping
  | .list items ending => do
    skipItems items
    ending
  | .record members ending => do
    skipMembers members
    ending
  | .broken fault => .error fault
  | .absent fault => .error fault

def skipItems : List Node → Except Fault Unit
  | [] => .ok ()
  | item :: items => do
    skip item
    skipItems items

def skipMembers : List (Part String × Node) → Except Fault Unit
  | [] => .ok ()
  | (key, value) :: members => do
    key.skipping
    skip value
    skipMembers members

end

/-- The fault of a value of the wrong kind. A number or a text is read first, so a fault of its own
comes before; a list or a record is refused where it opens. -/
def mismatch : Node → Fault
  | .number ⟨.error fault, _⟩ => fault
  | .text ⟨.error fault, _⟩ => fault
  | .broken fault => fault
  | .absent fault => fault
  | _ => .mismatched

end Node

end Collateral.Document
