import SealedVault.Text.Blank
import SealedVault.Text.Lowercase

/-!
# Words in any case of their letters

The lower-case form of a text is an ASCII word only if the text is that word up to the case of
ASCII letters, with one exception: the Kelvin sign has the letter k for its partner. Every other
character outside ASCII keeps a character outside ASCII in its place, the capital I with a dot a
combining dot. So a word without the letter k is the lower-case form of its ASCII variants only,
and a character that is foreign to such words keeps a text from being one of them in any case.
-/

namespace SealedVault.Text

/-- The texts are the same but for the case of ASCII letters. -/
def SameButCase (s t : String) : Prop :=
  s.toList.map Char.toLower = t.toList.map Char.toLower

/-- The word is written in lower case within ASCII, and without the letter k. -/
def isPlainWord (word : String) : Bool :=
  word.toList.all fun c => decide (c.toNat < 128 ∧ c ≠ 'k' ∧ c.toLower = c)

/-! ## Single characters -/

theorem char_of_lt {P : Char → Prop} (hall : ∀ i : Fin 128, P (Char.ofNat i)) {c : Char}
    (hc : c.toNat < 128) : P c := by
  have h := hall ⟨c.toNat, hc⟩
  rwa [Char.ofNat_toNat] at h

theorem lowercaseAt_of_lt {c : Char} (hc : c.toNat < 128) (before after : List Char) :
    lowercaseAt before c after = [c.toLower] := by
  have hchar : c ≠ 'Σ' ∧ c ≠ 'İ' ∧ lowercaseChar c = c.toLower :=
    char_of_lt (P := fun c => c ≠ 'Σ' ∧ c ≠ 'İ' ∧ lowercaseChar c = c.toLower)
      (by decide +kernel) hc
  obtain ⟨hsigma, hdotted, hlower⟩ := hchar
  rw [lowercaseAt, if_neg hsigma, if_neg hdotted, hlower]

/-- The run of the Kelvin sign, whose partner is the letter k. -/
def kelvinRun : LowercaseRun := ⟨⟨0x212a, 0x212a⟩, 1, -8383⟩

/-- Every other run that begins outside ASCII leads to characters outside ASCII. -/
theorem run_leads_outside {r : LowercaseRun} (hr : r ∈ lowercaseRuns) :
    r.range.last < 128 ∨ r = kelvinRun ∨
      128 ≤ r.range.first + r.shift ∧
        (r.range.last + r.shift < 0xd800 ∨
          0xdfff < r.range.first + r.shift ∧ r.range.last + r.shift < 0x110000) := by
  revert r
  decide +kernel

theorem toNat_ofNat_of_outside {n : Nat} (h : n < 0xd800 ∨ 0xdfff < n ∧ n < 0x110000) :
    (Char.ofNat n).toNat = n := by
  rw [Char.ofNat, dif_pos h]
  rfl

theorem lowercaseChar_of_le {c : Char} (hc : 128 ≤ c.toNat) :
    128 ≤ (lowercaseChar c).toNat ∨ lowercaseChar c = 'k' := by
  unfold lowercaseChar
  split
  next r hfind =>
    have hmem := List.mem_of_find?_eq_some hfind
    have hcovers := List.find?_some hfind
    simp only [LowercaseRun.covers, CharRange.holds, Bool.and_eq_true, decide_eq_true_eq] at hcovers
    obtain ⟨⟨hfirst, hlast⟩, -⟩ := hcovers
    rcases run_leads_outside hmem with hascii | rfl | ⟨hlow, hvalid⟩
    · omega
    · right
      have hkelvin : c.toNat = 0x212a := by
        simp only [kelvinRun] at hfirst hlast
        omega
      rw [hkelvin]
      rfl
    · left
      rw [toNat_ofNat_of_outside (by omega)]
      omega
  · exact .inl hc

/-- Outside ASCII a character keeps one outside ASCII in its place, or it becomes the letter k. -/
theorem exists_mem_lowercaseAt {c : Char} (hc : 128 ≤ c.toNat) (before after : List Char) :
    ∃ d ∈ lowercaseAt before c after, 128 ≤ d.toNat ∨ d = 'k' := by
  unfold lowercaseAt
  split
  · split
    · exact ⟨'ς', List.mem_singleton.mpr rfl, .inl (by decide)⟩
    · exact ⟨'σ', List.mem_singleton.mpr rfl, .inl (by decide)⟩
  split
  · exact ⟨'\u0307', by decide, .inl (by decide)⟩
  · exact ⟨_, List.mem_singleton.mpr rfl, lowercaseChar_of_le hc⟩

/-! ## Texts -/

theorem lowercaseFrom_of_lt {cs : List Char} (h : ∀ c ∈ cs, c.toNat < 128) (before : List Char) :
    lowercaseFrom before cs = cs.map Char.toLower := by
  induction cs generalizing before with
  | nil => rfl
  | cons c rest ih =>
    rw [lowercaseFrom, lowercaseAt_of_lt (h c List.mem_cons_self),
      ih fun d hd => h d (List.mem_cons_of_mem c hd)]
    rfl

/-- A text whose lower-case form is a word without the letter k has no character outside ASCII. -/
theorem lt_of_lowercaseFrom {before cs : List Char}
    (h : ∀ d ∈ lowercaseFrom before cs, d.toNat < 128 ∧ d ≠ 'k') : ∀ c ∈ cs, c.toNat < 128 := by
  induction cs generalizing before with
  | nil => exact fun c hc => absurd hc List.not_mem_nil
  | cons c rest ih =>
    rw [lowercaseFrom] at h
    rw [List.forall_mem_cons]
    constructor
    · refine Nat.lt_of_not_le fun hc => ?_
      obtain ⟨d, hd, hout⟩ := exists_mem_lowercaseAt hc before rest
      obtain ⟨hascii, hne⟩ := h d (List.mem_append_left _ hd)
      rcases hout with hle | rfl
      · omega
      · exact hne rfl
    · exact ih fun d hd => h d (List.mem_append_right _ hd)

theorem lt_of_toLower_lt {c : Char} (h : c.toLower.toNat < 128) : c.toNat < 128 := by
  unfold Char.toLower at h
  split at h
  next hupper =>
    have hle : c.toNat ≤ 90 := hupper.2
    omega
  · exact h

theorem plain_of_mem {word : String} (hword : isPlainWord word = true) {c : Char}
    (hc : c ∈ word.toList) : c.toNat < 128 ∧ c ≠ 'k' ∧ c.toLower = c :=
  of_decide_eq_true (List.all_eq_true.mp hword c hc)

theorem SameButCase.exists_mem {s t : String} (h : SameButCase s t) {c : Char}
    (hc : c ∈ s.toList) : ∃ d ∈ t.toList, d.toLower = c.toLower := by
  rw [← List.mem_map, ← h]
  exact List.mem_map_of_mem hc

theorem SameButCase.lt_of_mem {s word : String} (h : SameButCase s word)
    (hword : isPlainWord word = true) {c : Char} (hc : c ∈ s.toList) : c.toNat < 128 := by
  obtain ⟨d, hd, hsame⟩ := h.exists_mem hc
  obtain ⟨hlt, -, hlower⟩ := plain_of_mem hword hd
  apply lt_of_toLower_lt
  rwa [← hsame, hlower]

/-- The lower-case form of a text is a word without the letter k if and only if the text is that
word in some case of its ASCII letters. -/
theorem lowercase_eq_iff {word : String} (hword : isPlainWord word = true) {s : String} :
    lowercase s = word ↔ SameButCase s word := by
  have hlower : word.toList.map Char.toLower = word.toList := by
    rw [List.map_congr_left fun c hc => (plain_of_mem hword hc).2.2, List.map_id']
  constructor
  · rintro rfl
    rw [SameButCase, hlower, lowercase, String.toList_ofList]
    have hinside : ∀ d ∈ lowercaseFrom [] s.toList, d.toNat < 128 ∧ d ≠ 'k' := by
      intro d hd
      obtain ⟨hlt, hne, -⟩ := plain_of_mem hword (by rwa [lowercase, String.toList_ofList])
      exact ⟨hlt, hne⟩
    exact (lowercaseFrom_of_lt (lt_of_lowercaseFrom hinside) []).symm
  · intro hsame
    have hascii : ∀ c ∈ s.toList, c.toNat < 128 := fun c hc => hsame.lt_of_mem hword hc
    rw [SameButCase, hlower] at hsame
    rw [lowercase, lowercaseFrom_of_lt hascii, hsame, String.ofList_toList]

/-! ## Characters that are foreign to words -/

/-- Somewhere in the text stands a character outside ASCII, a blank, or a character that has several
characters in its place in the lower-case form. -/
def HasForeignChar (s : String) : Prop :=
  ∃ before c after, s.toList = before ++ c :: after ∧
    (128 ≤ c.toNat ∨ isBlank c = true ∨ 1 < (lowercaseAt before.reverse c after).length)

theorem isBlank_toLower_of_lt {c : Char} (hc : c.toNat < 128) : isBlank c.toLower = isBlank c :=
  char_of_lt (P := fun c => isBlank c.toLower = isBlank c) (by decide +kernel) hc

theorem not_hasForeignChar_of_sameButCase {s word : String} (hword : isPlainWord word = true)
    (hblank : ∀ c ∈ word.toList, isBlank c = false) (h : SameButCase s word) :
    ¬HasForeignChar s := by
  rintro ⟨before, c, after, htext, hforeign⟩
  have hmem : c ∈ s.toList := by
    rw [htext]
    exact List.mem_append_right before List.mem_cons_self
  have hlt : c.toNat < 128 := h.lt_of_mem hword hmem
  rcases hforeign with houtside | hc | hlong
  · omega
  · obtain ⟨d, hd, hsame⟩ := h.exists_mem hmem
    obtain ⟨-, -, hlower⟩ := plain_of_mem hword hd
    rw [← isBlank_toLower_of_lt hlt, ← hsame, hlower, hblank d hd] at hc
    cases hc
  · rw [lowercaseAt_of_lt hlt] at hlong
    exact absurd hlong (Nat.lt_irrefl 1)

end SealedVault.Text
