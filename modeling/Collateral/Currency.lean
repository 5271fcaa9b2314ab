/-!
Contract: currencies and the ordered pairs in which one is quoted in another.
-/

namespace Collateral

/-- A currency, known by its code. -/
structure Currency where
  code : String
deriving DecidableEq, Repr, Inhabited

instance : LT Currency := ⟨fun left right => left.code < right.code⟩

instance (left right : Currency) : Decidable (left < right) :=
  inferInstanceAs (Decidable (left.code < right.code))

/-- An ordered pair: a rate of the pair is the worth of one unit of `base` in units of `quote`. -/
structure FxPair where
  base : Currency
  quote : Currency
deriving DecidableEq, Repr, Inhabited

namespace FxPair

def inverse (pair : FxPair) : FxPair := ⟨pair.quote, pair.base⟩

def toText (pair : FxPair) : String := pair.base.code ++ "/" ++ pair.quote.code

/-- The pair as a conversion from its base into its quote currency. -/
def arrow (pair : FxPair) : String := pair.base.code ++ " -> " ++ pair.quote.code

end FxPair

end Collateral
