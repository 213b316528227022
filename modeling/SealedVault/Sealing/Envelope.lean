import SealedVault.Cipher.Chain
import SealedVault.Sealing.Key

/-!
# Envelopes

An envelope is an initial block, in the clear, followed by the chained blocks that were encrypted
behind it.
-/

namespace SealedVault.Sealing.Envelope

open Cipher

/-- The number of bytes of the initial block. -/
def initialSize : Nat := Block.size

/-- What is wrong with a key that the cipher cannot use. -/
def unsupportedKey (key : List UInt8) : SealingError :=
  .invalidKeyMaterial ("unsupported AES key length " ++ toString key.length ++ " bytes")

/-- The cipher for a key, whose length tells the variant, set up with the bytes of an initial
block. -/
def setUp (key initial : List UInt8) : Except SealingError Chain :=
  match Variant.ofKeySize? key.length with
  | some variant =>
    (variant.setUp key initial).mapError fun e => .cipher ("cipher init failed: " ++ e.message)
  | none => .error (unsupportedKey key)

/-- The envelope of some bytes behind an initial block. -/
def wrap (key : List UInt8) (initial : Block) (plain : List UInt8) :
    Except SealingError (List UInt8) := do
  let chain ← setUp key initial.toList
  return initial.toList ++ chain.encrypt plain

/-- The bytes inside an envelope. -/
def unwrap (key envelope : List UInt8) : Except SealingError (List UInt8) :=
  if envelope.length < initialSize then
    .error (.malformedEnvelope
      ("envelope too short: " ++ toString envelope.length ++ " bytes, need at least " ++
        toString initialSize))
  else do
    let chain ← setUp key (envelope.take initialSize)
    match chain.decrypt? (envelope.drop initialSize) with
    | some plain => return plain
    | none => throw (.decryptionFailed "bad padding or wrong key")

end SealedVault.Sealing.Envelope
