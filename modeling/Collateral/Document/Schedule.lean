import Collateral.Document.Shape
import Collateral.Document.Text
import Collateral.Exposure

/-!
Contract: reading exposure schedules from JSON.

The entries are taken in the order in which they are written.
-/

namespace Collateral

open Document

namespace Exposure

def readAmounts : Reader (List (Currency × Decimal)) :=
  readList (readPair (fun node => Currency.mk <$> readText node) readDecimal)

def shape : Shape where
  fields := [.of "date" readDate, .of "exposures" readAmounts]

def read : Reader Exposure := fun node => do
  let given ← shape.read node
  return ⟨← given.get "date" readDate, ← given.get "exposures" readAmounts⟩

end Exposure

namespace Schedule

def shape : Shape where
  fields := [.of "entries" (readList Exposure.read)]

def read : Reader Schedule := fun node => do
  let given ← shape.read node
  return ⟨← given.get "entries" (readList Exposure.read)⟩

def ofText (text : String) : Except Fault Schedule :=
  Document.read read text

end Schedule

end Collateral
