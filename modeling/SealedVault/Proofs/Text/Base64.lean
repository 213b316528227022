import SealedVault.Text.Base64
import SealedVault.Text.Blank

/-!
# Reading base64 accepts exactly what writing it produces

The characters of the alphabet and the numbers below 64 correspond. From that each group of four
characters corresponds to its bytes, the padded group at the end included, and so every byte string
has one base64 text and every text that is read is the base64 text of the bytes that it gives.
-/

namespace SealedVault.Text.Base64

/-! ## The alphabet -/

theorem value?_digit {n : Nat} (h : n < 64) : value? (digit n) = some n := by
  have hall : ∀ i : Fin 64, value? (digit i) = some i.val := by decide
  exact hall ⟨n, h⟩

theorem digit_ne_padding {n : Nat} (h : n < 64) : digit n ≠ '=' := by
  have hall : ∀ i : Fin 64, digit i ≠ '=' := by decide
  exact hall ⟨n, h⟩

theorem lt_and_eq_digit_of_value? {c : Char} {n : Nat} (h : value? c = some n) :
    n < 64 ∧ c = digit n := by
  have hchar (m : Nat) (hm : m = c.toNat) : c = Char.ofNat m := by
    rw [hm, Char.ofNat_toNat]
  simp only [value?] at h
  split at h
  next hupper =>
    cases h
    refine ⟨by omega, ?_⟩
    rw [digit, if_pos (by omega)]
    exact hchar _ (by omega)
  split at h
  next hlower =>
    cases h
    refine ⟨by omega, ?_⟩
    rw [digit, if_neg (by omega), if_pos (by omega)]
    exact hchar _ (by omega)
  split at h
  next hdecimal =>
    cases h
    refine ⟨by omega, ?_⟩
    rw [digit, if_neg (by omega), if_neg (by omega), if_pos (by omega)]
    exact hchar _ (by omega)
  split at h
  next hplus =>
    cases h
    exact ⟨by omega, hplus⟩
  split at h
  next hslash =>
    cases h
    exact ⟨by omega, hslash⟩
  · cases h

/-! ## Groups -/

/-- The bytes of four values below 64. -/
theorem group?_digits {w x y z : Nat}
    (hw : w < 64) (hx : x < 64) (hy : y < 64) (hz : z < 64) :
    group? (digit w) (digit x) (digit y) (digit z) =
      some [UInt8.ofNat (w * 4 + x / 16), UInt8.ofNat (x % 16 * 16 + y / 4),
        UInt8.ofNat (y % 4 * 64 + z)] := by
  simp [group?, value?_digit hw, value?_digit hx, value?_digit hy, value?_digit hz]

theorem ofNat_eq_of_toNat_eq {n : Nat} {b : UInt8} (h : n = b.toNat) :
    UInt8.ofNat n = b := by
  rw [h, UInt8.ofNat_toNat]

theorem toNat_ofNat_of_lt {n : Nat} (h : n < 256) : (UInt8.ofNat n).toNat = n := by
  rw [UInt8.toNat_ofNat']
  omega

/-- A full group reads back as the three bytes that it was written for. -/
theorem group?_encodeChars (a b c : UInt8) :
    group? (digit (a.toNat / 4)) (digit (a.toNat % 4 * 16 + b.toNat / 16))
        (digit (b.toNat % 16 * 4 + c.toNat / 64)) (digit (c.toNat % 64)) =
      some [a, b, c] := by
  have ha := a.toNat_lt
  have hb := b.toNat_lt
  have hc := c.toNat_lt
  rw [group?_digits (by omega) (by omega) (by omega) (by omega),
    ofNat_eq_of_toNat_eq (b := a) (by omega), ofNat_eq_of_toNat_eq (b := b) (by omega),
    ofNat_eq_of_toNat_eq (b := c) (by omega)]

theorem eq_encodeChars_of_group?
    {w x y z : Char} {bytes : List UInt8} (h : group? w x y z = some bytes)
    (rest : List UInt8) :
    ∃ a b c, bytes = [a, b, c] ∧
      encodeChars (a :: b :: c :: rest) = w :: x :: y :: z :: encodeChars rest := by
  simp only [group?, Option.bind_eq_bind, Option.bind_eq_some_iff, Option.pure_def,
    Option.some.injEq] at h
  obtain ⟨nw, hw, nx, hx, ny, hy, nz, hz, rfl⟩ := h
  obtain ⟨hw, rfl⟩ := lt_and_eq_digit_of_value? hw
  obtain ⟨hx, rfl⟩ := lt_and_eq_digit_of_value? hx
  obtain ⟨hy, rfl⟩ := lt_and_eq_digit_of_value? hy
  obtain ⟨hz, rfl⟩ := lt_and_eq_digit_of_value? hz
  refine ⟨_, _, _, rfl, ?_⟩
  rw [encodeChars, toNat_ofNat_of_lt (by omega), toNat_ofNat_of_lt (by omega),
    toNat_ofNat_of_lt (by omega)]
  simp only [List.cons.injEq, and_true]
  exact ⟨congrArg digit (by omega), congrArg digit (by omega),
    congrArg digit (by omega), congrArg digit (by omega)⟩

/-- One byte at the end. -/
theorem lastGroup?_one (a : UInt8) :
    lastGroup? (digit (a.toNat / 4)) (digit (a.toNat % 4 * 16)) '=' = some [a] := by
  have ha := a.toNat_lt
  simp only [lastGroup?, value?_digit (show a.toNat / 4 < 64 by omega),
    value?_digit (show a.toNat % 4 * 16 < 64 by omega), Option.bind_eq_bind,
    Option.bind_some, if_true, Nat.mul_mod_left, Option.pure_def]
  rw [ofNat_eq_of_toNat_eq (b := a) (by omega)]

/-- Two bytes at the end. -/
theorem lastGroup?_two (a b : UInt8) :
    lastGroup? (digit (a.toNat / 4)) (digit (a.toNat % 4 * 16 + b.toNat / 16))
        (digit (b.toNat % 16 * 4)) = some [a, b] := by
  have ha := a.toNat_lt
  have hb := b.toNat_lt
  have hpad := digit_ne_padding (show b.toNat % 16 * 4 < 64 by omega)
  simp only [lastGroup?, value?_digit (show a.toNat / 4 < 64 by omega),
    value?_digit (show a.toNat % 4 * 16 + b.toNat / 16 < 64 by omega),
    value?_digit (show b.toNat % 16 * 4 < 64 by omega), Option.bind_eq_bind,
    Option.bind_some, if_neg hpad, Nat.mul_mod_left, if_true, Option.pure_def]
  rw [ofNat_eq_of_toNat_eq (b := a) (by omega), ofNat_eq_of_toNat_eq (b := b) (by omega)]

theorem eq_encodeChars_of_lastGroup?
    {w x y : Char} {bytes : List UInt8} (h : lastGroup? w x y = some bytes) :
    encodeChars bytes = [w, x, y, '='] := by
  simp only [lastGroup?, Option.bind_eq_bind, Option.bind_eq_some_iff] at h
  obtain ⟨nw, hw, nx, hx, h⟩ := h
  obtain ⟨hw, rfl⟩ := lt_and_eq_digit_of_value? hw
  obtain ⟨hx, rfl⟩ := lt_and_eq_digit_of_value? hx
  split at h
  next hpad =>
    split at h
    next hzero =>
      cases h
      subst hpad
      rw [encodeChars, toNat_ofNat_of_lt (by omega)]
      simp only [List.cons.injEq, and_true]
      exact ⟨congrArg digit (by omega), congrArg digit (by omega)⟩
    · cases h
  · obtain ⟨ny, hy, hbytes⟩ := Option.bind_eq_some_iff.mp h
    obtain ⟨hy, rfl⟩ := lt_and_eq_digit_of_value? hy
    split at hbytes
    next hzero =>
      cases hbytes
      rw [encodeChars, toNat_ofNat_of_lt (by omega), toNat_ofNat_of_lt (by omega)]
      simp only [List.cons.injEq, and_true]
      exact ⟨congrArg digit (by omega), congrArg digit (by omega),
        congrArg digit (by omega)⟩
    · cases hbytes

/-! ## Texts -/

theorem decodeChars?_encodeChars (bytes : List UInt8) :
    decodeChars? (encodeChars bytes) = some bytes := by
  fun_induction encodeChars bytes with
  | case1 => rfl
  | case2 a =>
    rw [decodeChars?, if_pos ⟨rfl, rfl⟩, lastGroup?_one]
  | case3 a b =>
    rw [decodeChars?, if_pos ⟨rfl, rfl⟩, lastGroup?_two]
  | case4 a b c rest ih =>
    have hpad := digit_ne_padding (show c.toNat % 64 < 64 by omega)
    rw [decodeChars?, if_neg fun h => hpad h.1, group?_encodeChars, ih]
    rfl

theorem eq_encodeChars_of_decodeChars?
    {cs : List Char} {bytes : List UInt8} (h : decodeChars? cs = some bytes) :
    cs = encodeChars bytes := by
  fun_induction decodeChars? cs generalizing bytes with
  | case1 =>
    cases h
    rfl
  | case2 w x y z rest hlast =>
    obtain ⟨rfl, rfl⟩ := hlast
    exact (eq_encodeChars_of_lastGroup? h).symm
  | case3 w x y z rest hlast ih =>
    simp only [Option.bind_eq_bind, Option.bind_eq_some_iff, Option.pure_def,
      Option.some.injEq] at h
    obtain ⟨first, hfirst, more, hmore, rfl⟩ := h
    obtain ⟨a, b, c, rfl, hgroup⟩ := eq_encodeChars_of_group? hfirst more
    rw [List.cons_append, List.cons_append, List.cons_append, List.nil_append, hgroup,
      ← ih hmore]
  | case4 => cases h

theorem decode?_encode (bytes : List UInt8) : decode? (encode bytes) = some bytes := by
  rw [decode?, encode, String.toList_ofList, decodeChars?_encodeChars]

/-- Reading accepts the base64 text of some bytes and nothing else for them. -/
theorem decode?_eq_some_iff {s : String} {bytes : List UInt8} :
    decode? s = some bytes ↔ s = encode bytes := by
  constructor
  · intro h
    rw [encode, ← eq_encodeChars_of_decodeChars? h, String.ofList_toList]
  · rintro rfl
    exact decode?_encode bytes

/-! ## Blanks -/

theorem isBlank_digit {n : Nat} (h : n < 64) : isBlank (digit n) = false := by
  have hall : ∀ i : Fin 64, isBlank (digit i) = false := by decide
  exact hall ⟨n, h⟩

theorem isBlank_of_mem_encodeChars
    {bytes : List UInt8} {c : Char} (h : c ∈ encodeChars bytes) :
    isBlank c = false := by
  fun_induction encodeChars bytes with
  | case1 => simp at h
  | case2 a =>
    have ha := a.toNat_lt
    simp only [List.mem_cons, List.not_mem_nil, or_false] at h
    rcases h with rfl | rfl | rfl | rfl
    · exact isBlank_digit (by omega)
    · exact isBlank_digit (by omega)
    · decide
    · decide
  | case3 a b =>
    have ha := a.toNat_lt
    have hb := b.toNat_lt
    simp only [List.mem_cons, List.not_mem_nil, or_false] at h
    rcases h with rfl | rfl | rfl | rfl
    · exact isBlank_digit (by omega)
    · exact isBlank_digit (by omega)
    · exact isBlank_digit (by omega)
    · decide
  | case4 a b c rest ih =>
    have ha := a.toNat_lt
    have hb := b.toNat_lt
    have hc := c.toNat_lt
    simp only [List.mem_cons] at h
    rcases h with rfl | rfl | rfl | rfl | h
    · exact isBlank_digit (by omega)
    · exact isBlank_digit (by omega)
    · exact isBlank_digit (by omega)
    · exact isBlank_digit (by omega)
    · exact ih h

/-- No blanks stand around a base64 text. -/
@[simp] theorem trim_encode (bytes : List UInt8) : trim (encode bytes) = encode bytes := by
  have hkeep (cs : List Char) (h : ∀ c ∈ cs, isBlank c = false) : dropBlanks cs = cs := by
    cases cs with
    | nil => rfl
    | cons c rest => exact List.dropWhile_cons_of_neg (by simp [h c])
  have hnone : ∀ c ∈ encodeChars bytes, isBlank c = false :=
    fun c => isBlank_of_mem_encodeChars
  rw [trim, encode, String.toList_ofList, trimChars, hkeep _ hnone,
    hkeep _ (by simpa using hnone), List.reverse_reverse]

end SealedVault.Text.Base64
