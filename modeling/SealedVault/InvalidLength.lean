/-!
# Wrong lengths

The cipher and the keyed digest are set up with bytes before they are used. This is what they say
when the bytes of a key or of an initial block are not as many as they ask for.
-/

namespace SealedVault

/-- A key or an initial block has the wrong length. -/
structure InvalidLength where
deriving Repr, DecidableEq

/-- What the failure says. -/
def InvalidLength.message (_ : InvalidLength) : String := "Invalid Length"

end SealedVault
