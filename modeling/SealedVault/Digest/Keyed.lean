import SealedVault.Digest.Sha256
import SealedVault.InvalidLength

/-!
# Keyed digests

HMAC with SHA-256: the digest of a message under a key of any length.
-/

namespace SealedVault.Digest.Keyed

/-- The number of bytes that the digest takes at a time. -/
def blockSize : Nat := 64

/-- The key as one block; a longer key is replaced by its digest. -/
def keyBlock (key : List UInt8) : List UInt8 :=
  let short := if key.length > blockSize then Sha256.digest key else key
  short ++ List.replicate (blockSize - short.length) 0

/-- The digest of a message under a key. -/
def digest (key message : List UInt8) : List UInt8 :=
  let inner := (keyBlock key).map (· ^^^ 0x36)
  let outer := (keyBlock key).map (· ^^^ 0x5c)
  Sha256.digest (outer ++ Sha256.digest (inner ++ message))

@[simp] theorem length_digest (key message : List UInt8) : (digest key message).length = 32 := by
  simp [digest]

/-- Sets the digest up with a key, of which any length will do. -/
def setUp (key : List UInt8) : Except InvalidLength (List UInt8 → List UInt8) := .ok (digest key)

end SealedVault.Digest.Keyed
