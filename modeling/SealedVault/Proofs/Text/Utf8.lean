import SealedVault.Json.Token
import SealedVault.Text.Utf8

/-!
# The bytes of characters

The bytes of a text are those of its characters one after the other. A character below 128 is its
own byte, and the bytes of any other character are at least 128.
-/

namespace SealedVault.Text

/-- The UTF-8 bytes of some characters. -/
def charBytes (cs : List Char) : List UInt8 := cs.flatMap String.utf8EncodeChar

@[simp] theorem charBytes_nil : charBytes [] = [] := rfl

@[simp] theorem charBytes_cons (c : Char) (cs : List Char) :
    charBytes (c :: cs) = String.utf8EncodeChar c ++ charBytes cs := rfl

@[simp] theorem charBytes_append (as bs : List Char) :
    charBytes (as ++ bs) = charBytes as ++ charBytes bs := by
  simp [charBytes]

theorem utf8Bytes_ofList (cs : List Char) :
    utf8Bytes (String.ofList cs) = charBytes cs := by
  rw [utf8Bytes, String.toUTF8, String.toByteArray_ofList, List.utf8Encode]
  simp [charBytes]

theorem utf8Bytes_eq_charBytes (s : String) : utf8Bytes s = charBytes s.toList := by
  rw [← utf8Bytes_ofList, String.ofList_toList]

theorem ofUtf8Bytes?_charBytes (s : String) :
    ofUtf8Bytes? (charBytes s.toList) = some s := by
  rw [← utf8Bytes_eq_charBytes, ofUtf8Bytes?_utf8Bytes]

/-- The byte of a small number. -/
theorem le_ofNat_of_lt {n : Nat} (hlow : 128 ≤ n) (hhigh : n < 256) :
    0x80 ≤ UInt8.ofNat n := by
  rw [UInt8.le_iff_toNat_le, UInt8.toNat_ofNat']
  simp only [UInt8.reduceToNat]
  omega

theorem toNat_ascii {c : Char} (h : c.toNat < 128) : (Json.ascii c).toNat = c.toNat := by
  have hval : c.val.toNat < 128 := h
  rw [Json.ascii, Char.toUInt8, UInt32.toNat_toUInt8]
  exact Nat.mod_eq_of_lt (by omega)

theorem utf8EncodeChar_of_lt {c : Char} (h : c.toNat < 128) :
    String.utf8EncodeChar c = [Json.ascii c] := by
  have hle : c.val.toNat ≤ 0x7f := Nat.le_of_lt_succ h
  simp only [String.utf8EncodeChar, if_pos hle, Json.ascii, Char.toUInt8]
  rfl

/-- Characters below 128 have one byte each. -/
theorem charBytes_of_lt {cs : List Char} (h : ∀ c ∈ cs, c.toNat < 128) :
    charBytes cs = cs.map Json.ascii := by
  induction cs with
  | nil => rfl
  | cons c rest ih =>
    rw [charBytes_cons, utf8EncodeChar_of_lt (h c (by simp)), ih fun c' hc' => h c' (by simp [hc'])]
    rfl

theorem length_utf8Bytes (s : String) : (utf8Bytes s).length = s.utf8ByteSize := by
  rw [utf8Bytes, Array.length_toList]
  rfl

theorem utf8ByteSize_of_lt {s : String} (h : ∀ c ∈ s.toList, c.toNat < 128) :
    s.utf8ByteSize = s.toList.length := by
  rw [← length_utf8Bytes, utf8Bytes_eq_charBytes, charBytes_of_lt h, List.length_map]

theorem le_of_mem_utf8EncodeChar
    {c : Char} (hc : 128 ≤ c.toNat) {b : UInt8} (hb : b ∈ String.utf8EncodeChar c) :
    0x80 ≤ b := by
  have hle : ¬c.val.toNat ≤ 0x7f := Nat.not_le.mpr hc
  simp only [String.utf8EncodeChar, if_neg hle] at hb
  split at hb
  · simp only [List.mem_cons, List.not_mem_nil, or_false] at hb
    rcases hb with rfl | rfl <;> exact le_ofNat_of_lt (by omega) (by omega)
  split at hb
  · simp only [List.mem_cons, List.not_mem_nil, or_false] at hb
    rcases hb with rfl | rfl | rfl <;> exact le_ofNat_of_lt (by omega) (by omega)
  · simp only [List.mem_cons, List.not_mem_nil, or_false] at hb
    rcases hb with rfl | rfl | rfl | rfl <;> exact le_ofNat_of_lt (by omega) (by omega)

end SealedVault.Text
