import SealedVault.Digest.Keyed
import SealedVault.Vault.World

/-!
# Seeded worlds

A world whose ids and initial blocks follow from a secret seed. Each is taken from the digest of
its number under the seed, so that nobody who does not know the seed can tell them beforehand.
-/

namespace SealedVault

/-- The bytes drawn from a seed for a purpose, by number. -/
def drawBytes (seed : List UInt8) (purpose : String) (n : Nat) : List UInt8 :=
  Digest.Keyed.digest seed (Text.utf8Bytes (purpose ++ " " ++ toString n))

/-- The two hexadecimal digits of a byte. -/
def hexPair (b : UInt8) : List Char := [Nat.digitChar (b.toNat / 16), Nat.digitChar (b.toNat % 16)]

/-- The random id that some bytes make: the digits of sixteen of them in five groups, with the
marks of its version and variant. -/
def idOfBytes (bytes : List UInt8) : String :=
  let marked := (bytes.take 16).mapIdx fun i b =>
    if i = 6 then b &&& 0x0f ||| 0x40 else if i = 8 then b &&& 0x3f ||| 0x80 else b
  let digits := marked.flatMap hexPair
  String.ofList
    (digits.take 8 ++ '-' :: (digits.drop 8).take 4 ++ '-' :: (digits.drop 12).take 4 ++
      '-' :: (digits.drop 16).take 4 ++ '-' :: digits.drop 20)

/-- The initial block that some bytes begin with. -/
def initialOfBytes (bytes : List UInt8) : Cipher.Block :=
  ((Cipher.Block.take? bytes).map (·.1)).getD default

/-- The world with the given disk at the given instant. -/
def World.ofSeed (seed : List UInt8) (now : Calendar.Timestamp) (disk : Disk) : World where
  disk := disk
  clock := .ofFunction fun _ => now
  recordIds := .ofFunction fun n => idOfBytes (drawBytes seed "record" n)
  eventIds := .ofFunction fun n => idOfBytes (drawBytes seed "event" n)
  initials := .ofFunction fun n => initialOfBytes (drawBytes seed "initial" n)

end SealedVault
