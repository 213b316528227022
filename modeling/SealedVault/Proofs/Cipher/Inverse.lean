import Mathlib.Data.Fintype.EquivFin
import SealedVault.Cipher.Aes

/-!
# Decryption of a block inverts its encryption

Every step of a round has an inverse: the substitution by its table, the shift of the rows by
moving back, and the mixing of the columns because mixing four times changes nothing. The rounds
follow by induction on the list of round keys, in both directions.
-/

namespace SealedVault.Cipher

namespace Aes

/-! ## Mixing -/

theorem xor_left_comm (a b c : UInt8) : a ^^^ (b ^^^ c) = b ^^^ (a ^^^ c) := by
  rw [← UInt8.xor_assoc, UInt8.xor_comm a b, UInt8.xor_assoc]

theorem xor_xor_self_left (a b : UInt8) : a ^^^ (a ^^^ b) = b := by
  rw [← UInt8.xor_assoc, UInt8.xor_self, UInt8.zero_xor]

/-- The leading bit of a sum is the sum of the leading bits. -/
theorem xor_lt_128_iff (a b : UInt8) :
    a ^^^ b < 0x80 ↔ (a < 0x80 ↔ b < 0x80) := by
  have hmsb (x : UInt8) : x < 0x80 ↔ x.toBitVec.msb = false := by
    rw [UInt8.lt_iff_toNat_lt, BitVec.msb_eq_decide, decide_eq_false_iff_not]
    simp
  rw [hmsb, hmsb, hmsb, UInt8.toBitVec_xor, BitVec.msb_xor]
  cases a.toBitVec.msb <;> cases b.toBitVec.msb <;> simp

/-- Doubling is linear. -/
theorem double_xor (a b : UInt8) : double (a ^^^ b) = double a ^^^ double b := by
  have h := xor_lt_128_iff a b
  unfold double
  rw [UInt8.shiftLeft_xor]
  by_cases ha : a < 0x80 <;> by_cases hb : b < 0x80 <;>
    simp only [ha, hb, h, if_true, if_false, iff_true, iff_false, not_true,
      UInt8.xor_assoc, UInt8.xor_comm, xor_left_comm, UInt8.xor_self,
      UInt8.zero_xor]

/-- Mixing a column twice leaves only the balancing of opposite bytes. -/
theorem mixColumn_mixColumn (a : Column) :
    mixColumn (mixColumn a) = balanceColumn a := by
  simp only [balanceColumn, mixColumn, double_xor, Column.mk.injEq]
  refine ⟨?_, ?_, ?_, ?_⟩ <;>
    simp only [UInt8.xor_assoc, UInt8.xor_comm, xor_left_comm,
      xor_xor_self_left, UInt8.xor_self, UInt8.zero_xor]

theorem balanceColumn_balanceColumn (a : Column) :
    balanceColumn (balanceColumn a) = a := by
  cases a
  simp only [balanceColumn, double_xor]
  simp only [UInt8.xor_assoc, UInt8.xor_comm, xor_left_comm, UInt8.xor_self,
    UInt8.xor_zero]

@[simp] theorem unmixColumn_mixColumn (a : Column) :
    unmixColumn (mixColumn a) = a := by
  rw [unmixColumn, ← mixColumn_mixColumn, mixColumn_mixColumn,
    mixColumn_mixColumn, balanceColumn_balanceColumn]

@[simp] theorem mixColumn_unmixColumn (a : Column) :
    mixColumn (unmixColumn a) = a := by
  rw [unmixColumn, mixColumn_mixColumn, balanceColumn_balanceColumn]

/-! ## Substitution -/

theorem inverseSubstitution_get_substitution_get :
    ∀ i : Fin 256,
      inverseSubstitution.get (substitution.get i).toFin = UInt8.ofFin i := by
  decide +kernel

@[simp] theorem unsubstitute_substitute (b : UInt8) :
    unsubstitute (substitute b) = b :=
  inverseSubstitution_get_substitution_get b.toFin

/-- The other direction needs no second table: a byte has only 256 values, and an injection between
them is onto. -/
@[simp] theorem substitute_unsubstitute (b : UInt8) :
    substitute (unsubstitute b) = b := by
  have hfinite : Finite UInt8 :=
    Finite.of_injective UInt8.toFin fun a b h => UInt8.toFin_inj.mp h
  have hinjective : Function.Injective substitute :=
    Function.LeftInverse.injective unsubstitute_substitute
  obtain ⟨a, rfl⟩ := Finite.surjective_of_injective hinjective b
  rw [unsubstitute_substitute]

/-! ## Rounds -/

@[simp] theorem unscramble_scramble (a : Block) : unscramble (scramble a) = a := by
  simp [unscramble, scramble, unshiftRows, shiftRows, Block.map, Column.map]

@[simp] theorem scramble_unscramble (a : Block) : scramble (unscramble a) = a := by
  simp [unscramble, scramble, unshiftRows, shiftRows, Block.map, Column.map]

theorem map_unmixColumn_map_mixColumn (a : Block) :
    (a.map mixColumn).map unmixColumn = a := by
  simp [Block.map]

theorem map_mixColumn_map_unmixColumn (a : Block) :
    (a.map unmixColumn).map mixColumn = a := by
  simp [Block.map]

theorem decryptRounds_encryptRounds (keys : List Block) (a : Block) :
    decryptRounds keys (encryptRounds keys a) = a := by
  fun_induction encryptRounds keys a with
  | case1 a => rfl
  | case2 key a =>
    rw [decryptRounds, Block.xor_xor_cancel, unscramble_scramble]
  | case3 key keys a hkeys ih =>
    rw [decryptRounds.eq_3 _ _ _ hkeys, ih, Block.xor_xor_cancel,
      map_unmixColumn_map_mixColumn, unscramble_scramble]

theorem encryptRounds_decryptRounds (keys : List Block) (a : Block) :
    encryptRounds keys (decryptRounds keys a) = a := by
  fun_induction decryptRounds keys a with
  | case1 a => rfl
  | case2 key a =>
    rw [encryptRounds, scramble_unscramble, Block.xor_xor_cancel]
  | case3 key keys a hkeys ih =>
    rw [encryptRounds.eq_3 _ _ _ hkeys, scramble_unscramble,
      map_mixColumn_map_unmixColumn, Block.xor_xor_cancel, ih]

/-- Decryption of a block inverts encryption, whatever the round keys. -/
@[simp] theorem decryptBlock_encryptBlock (roundKeys : List Block) (a : Block) :
    decryptBlock roundKeys (encryptBlock roundKeys a) = a := by
  cases roundKeys with
  | nil => rfl
  | cons key keys =>
    rw [encryptBlock, decryptBlock, decryptRounds_encryptRounds,
      Block.xor_xor_cancel]

/-- Encryption of a block inverts decryption. -/
@[simp] theorem encryptBlock_decryptBlock (roundKeys : List Block) (a : Block) :
    encryptBlock roundKeys (decryptBlock roundKeys a) = a := by
  cases roundKeys with
  | nil => rfl
  | cons key keys =>
    rw [encryptBlock, decryptBlock, Block.xor_xor_cancel,
      encryptRounds_decryptRounds]

end Aes

end SealedVault.Cipher
