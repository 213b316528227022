import SealedVault.Digest.Keyed
import SealedVault.Sealing.Error
import SealedVault.Text.Base64
import SealedVault.Text.Blank
import SealedVault.Text.Utf8

/-!
# Keys

The master key, from which the key of every owner follows: the beginning of the digest of the
owner's name under the master key, as long as the master key itself.
-/

namespace SealedVault.Sealing

/-- The lengths that a key can have, in bytes. -/
def keySizes : List Nat := [16, 24, 32]

/-- A secret of one of the lengths that a key can have. -/
structure MasterKey where
  bytes : List UInt8
  size_mem : bytes.length ∈ keySizes
deriving DecidableEq

/-- What is wrong with a key of an unsupported length. -/
def keySizeFault (bytes : List UInt8) : String :=
  if bytes = [] then "master key is empty"
  else "unsupported key length " ++ toString bytes.length ++ " bytes (expected 16, 24 or 32)"

/-- Refuses keys of an unsupported length. -/
def checkKeySize (bytes : List UInt8) : Except SealingError Unit :=
  if bytes.length ∈ keySizes then .ok () else .error (.invalidKeyMaterial (keySizeFault bytes))

/-- Refuses owners whose name is blank. -/
def checkOwner (owner : String) : Except SealingError Unit :=
  if Text.trim owner = "" then .error (.invalidArgument "owner user id must not be blank")
  else .ok ()

namespace MasterKey

/-- The key with the given bytes. -/
def ofBytes (bytes : List UInt8) : Except SealingError MasterKey :=
  if h : bytes.length ∈ keySizes then .ok ⟨bytes, h⟩
  else .error (.invalidKeyMaterial (keySizeFault bytes))

/-- The key with the given base64 text, around which blanks are ignored. -/
def ofBase64 (text : String) : Except SealingError MasterKey :=
  match Text.Base64.decode? (Text.trim text) with
  | some bytes => ofBytes bytes
  | none => .error (.invalidKeyMaterial "master key is not valid base64")

/-- The length of the key in bits. -/
def bits (key : MasterKey) : Nat := key.bytes.length * 8

/-- A description that does not show the secret. -/
def describe (key : MasterKey) : String :=
  "MasterKey \x7b bits: " ++ toString key.bits ++ ", .. \x7d"

end MasterKey

/-- The key of an owner under a master key. -/
def deriveKey (master : List UInt8) (owner : String) : Except SealingError (List UInt8) := do
  checkKeySize master
  checkOwner owner
  let digest ← (Digest.Keyed.setUp master).mapError fun e => .invalidKeyMaterial e.message
  return (digest (Text.utf8Bytes owner)).take master.length

/-- A description of a derived key that does not show it. -/
def describeDerivedKey (key : List UInt8) : String :=
  "DerivedKey \x7b len: " ++ toString key.length ++ ", .. \x7d"

end SealedVault.Sealing
