/-!
# Blocks

Sixteen bytes in four columns of four, the unit on which the block cipher works. A byte string
is cut into blocks when its length is a multiple of sixteen.
-/

namespace SealedVault.Cipher

/-- Four bytes, from top to bottom. -/
structure Column where
  b0 : UInt8
  b1 : UInt8
  b2 : UInt8
  b3 : UInt8
deriving Repr, DecidableEq, Inhabited

/-- Four columns, from left to right. -/
structure Block where
  c0 : Column
  c1 : Column
  c2 : Column
  c3 : Column
deriving Repr, DecidableEq, Inhabited

namespace Column

/-- The bytewise exclusive or. -/
def xor (a b : Column) : Column := ⟨a.b0 ^^^ b.b0, a.b1 ^^^ b.b1, a.b2 ^^^ b.b2, a.b3 ^^^ b.b3⟩

/-- Changes each byte. -/
def map (f : UInt8 → UInt8) (a : Column) : Column := ⟨f a.b0, f a.b1, f a.b2, f a.b3⟩

/-- The bytes from top to bottom. -/
def toList (a : Column) : List UInt8 := [a.b0, a.b1, a.b2, a.b3]

theorem xor_xor_cancel (a b : Column) : (a.xor b).xor b = a := by
  cases a
  simp only [xor, UInt8.xor_assoc, UInt8.xor_self, UInt8.xor_zero]

@[simp] theorem length_toList (a : Column) : a.toList.length = 4 := rfl

end Column

namespace Block

/-- The bytewise exclusive or. -/
def xor (a b : Block) : Block := ⟨a.c0.xor b.c0, a.c1.xor b.c1, a.c2.xor b.c2, a.c3.xor b.c3⟩

/-- Changes each column. -/
def map (f : Column → Column) (a : Block) : Block := ⟨f a.c0, f a.c1, f a.c2, f a.c3⟩

/-- The bytes, column by column. -/
def toList (a : Block) : List UInt8 :=
  a.c0.toList ++ a.c1.toList ++ a.c2.toList ++ a.c3.toList

/-- The number of bytes in a block. -/
def size : Nat := 16

theorem xor_xor_cancel (a b : Block) : (a.xor b).xor b = a := by
  cases a
  simp [xor, Column.xor_xor_cancel]

@[simp] theorem length_toList (a : Block) : a.toList.length = size := rfl

/-- The block that some bytes begin with, and the bytes after it. -/
def take? : List UInt8 → Option (Block × List UInt8)
  | a0 :: a1 :: a2 :: a3 :: b0 :: b1 :: b2 :: b3 ::
      c0 :: c1 :: c2 :: c3 :: d0 :: d1 :: d2 :: d3 :: rest =>
    some (⟨⟨a0, a1, a2, a3⟩, ⟨b0, b1, b2, b3⟩, ⟨c0, c1, c2, c3⟩, ⟨d0, d1, d2, d3⟩⟩, rest)
  | _ => none

@[simp] theorem take?_toList_append (a : Block) (rest : List UInt8) :
    take? (a.toList ++ rest) = some (a, rest) := rfl

theorem eq_append_of_take?
    {bytes rest : List UInt8} {a : Block} (h : take? bytes = some (a, rest)) :
    bytes = a.toList ++ rest := by
  unfold take? at h
  split at h
  · cases h
    rfl
  · simp at h

theorem length_of_take?
    {bytes rest : List UInt8} {a : Block} (h : take? bytes = some (a, rest)) :
    bytes.length = size + rest.length := by
  simp [eq_append_of_take? h]

end Block

/-- The bytes of a list of blocks. -/
def bytesOfBlocks (blocks : List Block) : List UInt8 := blocks.flatMap Block.toList

/-- Cuts bytes into blocks; there are none when some bytes are left over. -/
def blocks? (bytes : List UInt8) : Option (List Block) :=
  match _h : Block.take? bytes with
  | some (block, rest) => (blocks? rest).map (block :: ·)
  | none => if bytes = [] then some [] else none
termination_by bytes.length
decreasing_by
  have := Block.length_of_take? _h
  simp [Block.size] at this
  omega

end SealedVault.Cipher
