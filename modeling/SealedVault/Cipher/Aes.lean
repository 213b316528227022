import SealedVault.Cipher.Block

/-!
# AES

The Advanced Encryption Standard for keys of 16, 24 and 32 bytes, on single blocks. Decryption
walks the same list of round keys as encryption and undoes each round after the rounds behind it.
-/

namespace SealedVault.Cipher.Aes

set_option maxRecDepth 4000 in
/-- The substitution table. -/
def substitution : Vector UInt8 256 := #v[
  0x63, 0x7c, 0x77, 0x7b, 0xf2, 0x6b, 0x6f, 0xc5, 0x30, 0x01, 0x67, 0x2b, 0xfe, 0xd7, 0xab, 0x76,
  0xca, 0x82, 0xc9, 0x7d, 0xfa, 0x59, 0x47, 0xf0, 0xad, 0xd4, 0xa2, 0xaf, 0x9c, 0xa4, 0x72, 0xc0,
  0xb7, 0xfd, 0x93, 0x26, 0x36, 0x3f, 0xf7, 0xcc, 0x34, 0xa5, 0xe5, 0xf1, 0x71, 0xd8, 0x31, 0x15,
  0x04, 0xc7, 0x23, 0xc3, 0x18, 0x96, 0x05, 0x9a, 0x07, 0x12, 0x80, 0xe2, 0xeb, 0x27, 0xb2, 0x75,
  0x09, 0x83, 0x2c, 0x1a, 0x1b, 0x6e, 0x5a, 0xa0, 0x52, 0x3b, 0xd6, 0xb3, 0x29, 0xe3, 0x2f, 0x84,
  0x53, 0xd1, 0x00, 0xed, 0x20, 0xfc, 0xb1, 0x5b, 0x6a, 0xcb, 0xbe, 0x39, 0x4a, 0x4c, 0x58, 0xcf,
  0xd0, 0xef, 0xaa, 0xfb, 0x43, 0x4d, 0x33, 0x85, 0x45, 0xf9, 0x02, 0x7f, 0x50, 0x3c, 0x9f, 0xa8,
  0x51, 0xa3, 0x40, 0x8f, 0x92, 0x9d, 0x38, 0xf5, 0xbc, 0xb6, 0xda, 0x21, 0x10, 0xff, 0xf3, 0xd2,
  0xcd, 0x0c, 0x13, 0xec, 0x5f, 0x97, 0x44, 0x17, 0xc4, 0xa7, 0x7e, 0x3d, 0x64, 0x5d, 0x19, 0x73,
  0x60, 0x81, 0x4f, 0xdc, 0x22, 0x2a, 0x90, 0x88, 0x46, 0xee, 0xb8, 0x14, 0xde, 0x5e, 0x0b, 0xdb,
  0xe0, 0x32, 0x3a, 0x0a, 0x49, 0x06, 0x24, 0x5c, 0xc2, 0xd3, 0xac, 0x62, 0x91, 0x95, 0xe4, 0x79,
  0xe7, 0xc8, 0x37, 0x6d, 0x8d, 0xd5, 0x4e, 0xa9, 0x6c, 0x56, 0xf4, 0xea, 0x65, 0x7a, 0xae, 0x08,
  0xba, 0x78, 0x25, 0x2e, 0x1c, 0xa6, 0xb4, 0xc6, 0xe8, 0xdd, 0x74, 0x1f, 0x4b, 0xbd, 0x8b, 0x8a,
  0x70, 0x3e, 0xb5, 0x66, 0x48, 0x03, 0xf6, 0x0e, 0x61, 0x35, 0x57, 0xb9, 0x86, 0xc1, 0x1d, 0x9e,
  0xe1, 0xf8, 0x98, 0x11, 0x69, 0xd9, 0x8e, 0x94, 0x9b, 0x1e, 0x87, 0xe9, 0xce, 0x55, 0x28, 0xdf,
  0x8c, 0xa1, 0x89, 0x0d, 0xbf, 0xe6, 0x42, 0x68, 0x41, 0x99, 0x2d, 0x0f, 0xb0, 0x54, 0xbb, 0x16]

set_option maxRecDepth 4000 in
/-- The table that undoes the substitution. -/
def inverseSubstitution : Vector UInt8 256 := #v[
  0x52, 0x09, 0x6a, 0xd5, 0x30, 0x36, 0xa5, 0x38, 0xbf, 0x40, 0xa3, 0x9e, 0x81, 0xf3, 0xd7, 0xfb,
  0x7c, 0xe3, 0x39, 0x82, 0x9b, 0x2f, 0xff, 0x87, 0x34, 0x8e, 0x43, 0x44, 0xc4, 0xde, 0xe9, 0xcb,
  0x54, 0x7b, 0x94, 0x32, 0xa6, 0xc2, 0x23, 0x3d, 0xee, 0x4c, 0x95, 0x0b, 0x42, 0xfa, 0xc3, 0x4e,
  0x08, 0x2e, 0xa1, 0x66, 0x28, 0xd9, 0x24, 0xb2, 0x76, 0x5b, 0xa2, 0x49, 0x6d, 0x8b, 0xd1, 0x25,
  0x72, 0xf8, 0xf6, 0x64, 0x86, 0x68, 0x98, 0x16, 0xd4, 0xa4, 0x5c, 0xcc, 0x5d, 0x65, 0xb6, 0x92,
  0x6c, 0x70, 0x48, 0x50, 0xfd, 0xed, 0xb9, 0xda, 0x5e, 0x15, 0x46, 0x57, 0xa7, 0x8d, 0x9d, 0x84,
  0x90, 0xd8, 0xab, 0x00, 0x8c, 0xbc, 0xd3, 0x0a, 0xf7, 0xe4, 0x58, 0x05, 0xb8, 0xb3, 0x45, 0x06,
  0xd0, 0x2c, 0x1e, 0x8f, 0xca, 0x3f, 0x0f, 0x02, 0xc1, 0xaf, 0xbd, 0x03, 0x01, 0x13, 0x8a, 0x6b,
  0x3a, 0x91, 0x11, 0x41, 0x4f, 0x67, 0xdc, 0xea, 0x97, 0xf2, 0xcf, 0xce, 0xf0, 0xb4, 0xe6, 0x73,
  0x96, 0xac, 0x74, 0x22, 0xe7, 0xad, 0x35, 0x85, 0xe2, 0xf9, 0x37, 0xe8, 0x1c, 0x75, 0xdf, 0x6e,
  0x47, 0xf1, 0x1a, 0x71, 0x1d, 0x29, 0xc5, 0x89, 0x6f, 0xb7, 0x62, 0x0e, 0xaa, 0x18, 0xbe, 0x1b,
  0xfc, 0x56, 0x3e, 0x4b, 0xc6, 0xd2, 0x79, 0x20, 0x9a, 0xdb, 0xc0, 0xfe, 0x78, 0xcd, 0x5a, 0xf4,
  0x1f, 0xdd, 0xa8, 0x33, 0x88, 0x07, 0xc7, 0x31, 0xb1, 0x12, 0x10, 0x59, 0x27, 0x80, 0xec, 0x5f,
  0x60, 0x51, 0x7f, 0xa9, 0x19, 0xb5, 0x4a, 0x0d, 0x2d, 0xe5, 0x7a, 0x9f, 0x93, 0xc9, 0x9c, 0xef,
  0xa0, 0xe0, 0x3b, 0x4d, 0xae, 0x2a, 0xf5, 0xb0, 0xc8, 0xeb, 0xbb, 0x3c, 0x83, 0x53, 0x99, 0x61,
  0x17, 0x2b, 0x04, 0x7e, 0xba, 0x77, 0xd6, 0x26, 0xe1, 0x69, 0x14, 0x63, 0x55, 0x21, 0x0c, 0x7d]

/-- The byte that the substitution puts in place of another. -/
def substitute (b : UInt8) : UInt8 := substitution.get ⟨b.toNat, b.toNat_lt⟩

/-- Undoes `substitute`. -/
def unsubstitute (b : UInt8) : UInt8 := inverseSubstitution.get ⟨b.toNat, b.toNat_lt⟩

/-- Multiplication by two in the field of 256 elements. -/
def double (b : UInt8) : UInt8 := (b <<< 1) ^^^ (if b < 0x80 then 0 else 0x1b)

/-- Mixes the bytes of a column by the matrix with first row 2, 3, 1, 1. -/
def mixColumn (a : Column) : Column where
  b0 := double a.b0 ^^^ (double a.b1 ^^^ a.b1) ^^^ a.b2 ^^^ a.b3
  b1 := a.b0 ^^^ double a.b1 ^^^ (double a.b2 ^^^ a.b2) ^^^ a.b3
  b2 := a.b0 ^^^ a.b1 ^^^ double a.b2 ^^^ (double a.b3 ^^^ a.b3)
  b3 := (double a.b0 ^^^ a.b0) ^^^ a.b1 ^^^ a.b2 ^^^ double a.b3

/-- Adds four times the sum of two opposite bytes to both of them, which turns the mixing of a
column into its inverse. -/
def balanceColumn (a : Column) : Column :=
  let even := double (double (a.b0 ^^^ a.b2))
  let odd := double (double (a.b1 ^^^ a.b3))
  ⟨a.b0 ^^^ even, a.b1 ^^^ odd, a.b2 ^^^ even, a.b3 ^^^ odd⟩

/-- Undoes `mixColumn`. -/
def unmixColumn (a : Column) : Column := mixColumn (balanceColumn a)

/-- Moves row `i` of a block `i` places to the left. -/
def shiftRows (a : Block) : Block where
  c0 := ⟨a.c0.b0, a.c1.b1, a.c2.b2, a.c3.b3⟩
  c1 := ⟨a.c1.b0, a.c2.b1, a.c3.b2, a.c0.b3⟩
  c2 := ⟨a.c2.b0, a.c3.b1, a.c0.b2, a.c1.b3⟩
  c3 := ⟨a.c3.b0, a.c0.b1, a.c1.b2, a.c2.b3⟩

/-- Moves row `i` of a block `i` places to the right. -/
def unshiftRows (a : Block) : Block where
  c0 := ⟨a.c0.b0, a.c3.b1, a.c2.b2, a.c1.b3⟩
  c1 := ⟨a.c1.b0, a.c0.b1, a.c3.b2, a.c2.b3⟩
  c2 := ⟨a.c2.b0, a.c1.b1, a.c0.b2, a.c3.b3⟩
  c3 := ⟨a.c3.b0, a.c2.b1, a.c1.b2, a.c0.b3⟩

/-- Substitution and shift, the part of a round that does not use the key. -/
def scramble (a : Block) : Block := shiftRows (a.map (·.map substitute))

/-- Undoes `scramble`: the shift first, then the substitution of each byte. -/
def unscramble (a : Block) : Block := (unshiftRows a).map (·.map unsubstitute)

/-- The rounds of encryption; the last one does not mix the columns. -/
def encryptRounds : List Block → Block → Block
  | [], a => a
  | [key], a => (scramble a).xor key
  | key :: keys, a => encryptRounds keys (((scramble a).map mixColumn).xor key)

/-- Undoes `encryptRounds` with the same round keys. -/
def decryptRounds : List Block → Block → Block
  | [], a => a
  | [key], a => unscramble (a.xor key)
  | key :: keys, a => unscramble (((decryptRounds keys a).xor key).map unmixColumn)

/-- Encrypts a block: the first round key is added before the rounds. -/
def encryptBlock (roundKeys : List Block) (a : Block) : Block :=
  match roundKeys with
  | [] => a
  | key :: keys => encryptRounds keys (a.xor key)

/-- Decrypts a block with the same round keys. -/
def decryptBlock (roundKeys : List Block) (a : Block) : Block :=
  match roundKeys with
  | [] => a
  | key :: keys => (decryptRounds keys a).xor key

/-- The columns of a key. -/
def keyColumns : List UInt8 → List Column
  | a :: b :: c :: d :: rest => ⟨a, b, c, d⟩ :: keyColumns rest
  | _ => []

/-- The core of the key schedule: rotation, substitution and the round constant. -/
def stir (a : Column) (constant : UInt8) : Column :=
  ⟨substitute a.b1 ^^^ constant, substitute a.b2, substitute a.b3, substitute a.b0⟩

/-- Extends the key schedule, newest column first, by `count` columns. `place` is the index of
the next column and `width` the number of columns of the key. -/
def extendSchedule (width : Nat) : (count place : Nat) → (constant : UInt8) →
    List Column → List Column
  | 0, _, _, columns => columns
  | count + 1, place, constant, columns =>
    let last := columns.getD 0 default
    let back := columns.getD (width - 1) default
    if place % width = 0 then
      extendSchedule width count (place + 1) (double constant)
        (back.xor (stir last constant) :: columns)
    else if width > 6 ∧ place % width = 4 then
      extendSchedule width count (place + 1) constant (back.xor (last.map substitute) :: columns)
    else
      extendSchedule width count (place + 1) constant (back.xor last :: columns)

/-- Groups columns into blocks. -/
def groupColumns : List Column → List Block
  | a :: b :: c :: d :: rest => ⟨a, b, c, d⟩ :: groupColumns rest
  | _ => []

/-- The round keys of a key: one more than the number of rounds, which is the number of the
key's columns plus six. -/
def roundKeys (key : List UInt8) : List Block :=
  let columns := keyColumns key
  let width := columns.length
  groupColumns (extendSchedule width (4 * (width + 7) - width) width 1 columns.reverse).reverse

end SealedVault.Cipher.Aes
