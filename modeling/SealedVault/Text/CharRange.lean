/-!
# Ranges of characters

A property of characters is given by the ranges of code points that have it.
-/

namespace SealedVault.Text

/-- The code points from `first` to `last`, both included. -/
structure CharRange where
  first : Nat
  last : Nat
deriving Repr, DecidableEq

/-- The range holds the character. -/
def CharRange.holds (r : CharRange) (c : Char) : Bool :=
  r.first ≤ c.toNat && c.toNat ≤ r.last

/-- Some range of the list holds the character. -/
def inRanges (ranges : List CharRange) (c : Char) : Bool :=
  ranges.any (·.holds c)

end SealedVault.Text
