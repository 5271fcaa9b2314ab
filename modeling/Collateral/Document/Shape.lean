import Collateral.Document.Value

/-!
Contract: reading records by the names of their fields.

A shape lists the fields of a record. A record names its fields in any order; a list gives their
values in order of the shape. A field may have further names, and may be given once only. A
closed shape refuses unknown names, an open one skips their values. Where the shape is lenient a
list may stop early; which fields a record must give is up to whoever takes the values.

Reading goes from left to right and checks every value where it stands, so the first fault of the
text counts. The values are then taken by name.
-/

namespace Collateral.Document

/-- A field: its name, further names that count as this one, and a check of its value. -/
structure Field where
  name : String
  aliases : List String := []
  check : Node → Except Fault Unit

/-- The field of a name whose value is read by a reader. -/
def Field.of {α : Type} (name : String) (reader : Reader α) (aliases : List String := []) :
    Field :=
  { name, aliases, check := fun node => (fun _ => ()) <$> reader node }

/-- The fields of a record, and how strict it is. -/
structure Shape where
  fields : List Field
  closed : Bool := false
  lenient : Bool := false

/-- The values of a record, each under the name of its field. -/
structure Given where
  values : List (String × Node) := []

namespace Given

def node? (given : Given) (name : String) : Option Node :=
  (given.values.find? (·.1 = name)).map Prod.snd

/-- The value of a field that must be given. -/
def get {α : Type} (given : Given) (name : String) (reader : Reader α) : Except Fault α := do
  reader (← expect (given.node? name))

/-- The value of a field, or another where it is not given. -/
def getD {α : Type} (given : Given) (name : String) (reader : Reader α) (fallback : α) :
    Except Fault α :=
  match given.node? name with
  | some node => reader node
  | none => .ok fallback

/-- The value of a field that may be null or not given. -/
def get? {α : Type} (given : Given) (name : String) (reader : Reader α) :
    Except Fault (Option α) :=
  given.getD name (readOption reader) none

end Given

namespace Shape

def field? (shape : Shape) (name : String) : Option Field :=
  shape.fields.find? fun field => field.name = name || field.aliases.contains name

/-- Takes one member of a record. A field given before and a name that a closed shape does not
know are refused at the name; values nobody asks for are skipped. -/
def take (shape : Shape) (given : Given) (member : Part String × Node) :
    Except Fault Given := do
  let name ← member.1.reading
  match shape.field? name with
  | some field =>
    if (given.node? field.name).isSome then throw .mismatched
    field.check member.2
    return ⟨given.values ++ [(field.name, member.2)]⟩
  | none =>
    if shape.closed then throw .mismatched
    member.2.skip
    return given

/-- Takes the items of a list as the values of the fields in order. -/
def takeInOrder (shape : Shape) (ending : Except Fault Unit) :
    List Field → List Node → Except Fault (List (String × Node))
  | [], items => do
    endOf 0 items ending
    return []
  | _ :: _, [] => do
    ending
    if shape.lenient then return [] else throw .mismatched
  | field :: fields, item :: items => do
    field.check item
    return (field.name, item) :: (← takeInOrder shape ending fields items)

def read (shape : Shape) : Reader Given
  | .record members ending => do
    let given ← members.foldlM shape.take {}
    ending
    return given
  | .list items ending => Given.mk <$> shape.takeInOrder ending shape.fields items
  | node => refuse node

end Shape

end Collateral.Document
