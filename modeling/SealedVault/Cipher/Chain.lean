import SealedVault.Cipher.Aes
import SealedVault.InvalidLength

/-!
# Chained blocks with padding

A byte string of any length is padded to whole blocks: `n` bytes of value `n` are added, from one
to sixteen of them. Each block is combined with the encrypted block before it, the first with an
initial block, and then encrypted.

A variant of the cipher is set up with the bytes of a key and of an initial block before it is
used, which fails when either has the wrong length.
-/

namespace SealedVault.Cipher

/-- The number of bytes that padding adds. -/
def paddingLength (length : Nat) : Nat := Block.size - length % Block.size

/-- Adds `n` bytes of value `n`, so that the length becomes a multiple of the block size. -/
def pad (bytes : List UInt8) : List UInt8 :=
  let n := paddingLength bytes.length
  bytes ++ List.replicate n (UInt8.ofNat n)

/-- Removes padding; there is none to remove unless the last byte `n` is from 1 to 16 and the
last `n` bytes all have that value. -/
def unpad? (bytes : List UInt8) : Option (List UInt8) :=
  match bytes.getLast? with
  | none => none
  | some last =>
    let n := last.toNat
    if 1 ≤ n ∧ n ≤ Block.size ∧ n ≤ bytes.length ∧
        bytes.drop (bytes.length - n) = List.replicate n last then
      some (bytes.take (bytes.length - n))
    else none

/-- Encrypts blocks in a chain that begins with `previous`. -/
def chainEncrypt (roundKeys : List Block) (previous : Block) : List Block → List Block
  | [] => []
  | block :: rest =>
    let sealed := Aes.encryptBlock roundKeys (block.xor previous)
    sealed :: chainEncrypt roundKeys sealed rest

/-- Decrypts blocks of a chain that begins with `previous`. -/
def chainDecrypt (roundKeys : List Block) (previous : Block) : List Block → List Block
  | [] => []
  | block :: rest =>
    (Aes.decryptBlock roundKeys block).xor previous :: chainDecrypt roundKeys block rest

/-- Pads and encrypts bytes. Padded bytes always make whole blocks. -/
def encryptBytes (key : List UInt8) (initial : Block) (plain : List UInt8) : List UInt8 :=
  bytesOfBlocks (chainEncrypt (Aes.roundKeys key) initial ((blocks? (pad plain)).getD []))

/-- Decrypts bytes and removes their padding. -/
def decryptBytes? (key : List UInt8) (initial : Block) (bytes : List UInt8) :
    Option (List UInt8) := do
  let blocks ← blocks? bytes
  unpad? (bytesOfBlocks (chainDecrypt (Aes.roundKeys key) initial blocks))

/-! ## Setting up -/

/-- The variants of the cipher, named for the bits of their keys. -/
inductive Variant where
  | aes128
  | aes192
  | aes256
deriving Repr, DecidableEq

namespace Variant

/-- The number of bytes in a key of the variant. -/
def keySize : Variant → Nat
  | aes128 => 16
  | aes192 => 24
  | aes256 => 32

/-- The variant whose keys have some number of bytes. -/
def ofKeySize? : Nat → Option Variant
  | 16 => some aes128
  | 24 => some aes192
  | 32 => some aes256
  | _ => none

end Variant

/-- A variant that was set up with a key and an initial block. -/
structure Chain where
  variant : Variant
  key : List UInt8
  initial : Block
  length_key : key.length = variant.keySize

/-- Sets a variant up. The key must be as long as the keys of the variant, and the initial block
must be one block and no more. -/
def Variant.setUp (variant : Variant) (key initial : List UInt8) : Except InvalidLength Chain :=
  if hkey : key.length = variant.keySize then
    match Block.take? initial with
    | some (block, []) => .ok ⟨variant, key, block, hkey⟩
    | _ => .error {}
  else .error {}

namespace Chain

/-- Pads and encrypts bytes. -/
def encrypt (chain : Chain) (plain : List UInt8) : List UInt8 :=
  encryptBytes chain.key chain.initial plain

/-- Decrypts bytes and removes their padding. -/
def decrypt? (chain : Chain) (bytes : List UInt8) : Option (List UInt8) :=
  decryptBytes? chain.key chain.initial bytes

end Chain

end SealedVault.Cipher
