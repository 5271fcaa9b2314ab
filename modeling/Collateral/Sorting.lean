/-!
Contract: stable sorting of lists.

Insertion keeps entries that rank alike in the order in which they were given. Plain recursion on
the list keeps a sorted list computable inside proofs.
-/

namespace Collateral

universe u

variable {α : Type u}

/-- Puts an entry in front of the first one that it may precede. -/
def insertBy (mayPrecede : α → α → Bool) (entry : α) : List α → List α
  | [] => [entry]
  | head :: rest =>
    if mayPrecede entry head then entry :: head :: rest
    else head :: insertBy mayPrecede entry rest

/-- The list in order; entries that may precede each other keep their order. -/
def sortBy (mayPrecede : α → α → Bool) (entries : List α) : List α :=
  entries.foldr (insertBy mayPrecede) []

end Collateral
