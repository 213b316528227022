import SealedVault.Calendar.Reading

/-!
# Timestamps read back from their written form

Each number of a written timestamp is read back as itself, because it has a fixed number of digits
and is followed by no digit. The readers are then followed along the written form.
-/

namespace SealedVault.Calendar

open Date (digitChar fixedDigits yearDigits yearChars)

/-! ## Digits -/

theorem isDigit_digitChar {n : Nat} (h : n < 10) : (digitChar n).isDigit = true := by
  have hall : ∀ i : Fin 10, (digitChar i).isDigit = true := by decide
  exact hall ⟨n, h⟩

theorem toNat_digitChar {n : Nat} (h : n < 10) : (digitChar n).toNat - 0x30 = n := by
  have hall : ∀ i : Fin 10, (digitChar i).toNat - 0x30 = i.val := by decide
  exact hall ⟨n, h⟩

theorem isBlank_digitChar {n : Nat} (h : n < 10) : Text.isBlank (digitChar n) = false := by
  have hall : ∀ i : Fin 10, Text.isBlank (digitChar i) = false := by decide
  exact hall ⟨n, h⟩

theorem isDigit_of_mem_fixedDigits
    {width n : Nat} {c : Char} (h : c ∈ fixedDigits width n) : c.isDigit = true := by
  induction width generalizing n with
  | zero => simp [fixedDigits] at h
  | succ width ih =>
    rw [fixedDigits, List.mem_append, List.mem_singleton] at h
    rcases h with h | rfl
    · exact ih h
    · exact isDigit_digitChar (Nat.mod_lt n (by decide))

@[simp] theorem length_fixedDigits (width n : Nat) : (fixedDigits width n).length = width := by
  induction width generalizing n with
  | zero => rfl
  | succ width ih => simp [fixedDigits, ih]

theorem digitsValue_append (digits : List Char) (c : Char) :
    digitsValue (digits ++ [c]) = 10 * digitsValue digits + (c.toNat - 0x30) := by
  simp [digitsValue]

/-- A number that the digits hold is the number for which they stand. -/
theorem digitsValue_fixedDigits {width n : Nat} (h : n < Nat.pow 10 width) :
    digitsValue (fixedDigits width n) = n := by
  induction width generalizing n with
  | zero =>
    have hzero : n = 0 := by simpa using h
    rw [hzero]
    rfl
  | succ width ih =>
    have hquotient : n / 10 < Nat.pow 10 width := by
      apply Nat.div_lt_of_lt_mul
      rw [Nat.mul_comm]
      exact h
    rw [fixedDigits, digitsValue_append, ih hquotient, toNat_digitChar (Nat.mod_lt n (by decide))]
    omega

theorem fixedDigits_ne_nil {width : Nat} (h : 0 < width) (n : Nat) : fixedDigits width n ≠ [] := by
  intro hnil
  have hlength := length_fixedDigits width n
  rw [hnil] at hlength
  simp only [List.length_nil] at hlength
  omega

/-- A text that begins with no digit. -/
def NoDigit (cs : List Char) : Prop := ∀ c rest, cs = c :: rest → c.isDigit = false

theorem noDigit_cons {c : Char} {rest : List Char} (h : c.isDigit = false) :
    NoDigit (c :: rest) := by
  intro c' rest' heq
  cases heq
  exact h

theorem leadingDigits_append
    {limit : Nat} {digits rest : List Char}
    (hdigits : ∀ c ∈ digits, c.isDigit = true)
    (hlength : digits.length ≤ limit)
    (hend : digits.length = limit ∨ NoDigit rest) :
    leadingDigits limit (digits ++ rest) = digits := by
  rw [leadingDigits, List.take_append, List.take_of_length_le hlength,
    List.takeWhile_append_of_pos hdigits]
  have hnone : (rest.take (limit - digits.length)).takeWhile Char.isDigit = [] := by
    rcases hend with heq | hno
    · rw [heq, Nat.sub_self, List.take_zero, List.takeWhile_nil]
    · cases rest with
      | nil => simp
      | cons c rest =>
        cases limit - digits.length with
        | zero => simp
        | succ k => simp [hno c rest rfl]
  rw [hnone, List.append_nil]

/-- A number reads back from its digits, up to the end of the field or the next other character. -/
theorem readNumber_fixedDigits
    {limit width n : Nat} {rest : List Char}
    (hpos : 0 < width) (hle : width ≤ limit) (hn : n < Nat.pow 10 width)
    (hend : width = limit ∨ NoDigit rest) :
    readNumber limit (fixedDigits width n ++ rest) = .ok (n, rest) := by
  have hleading : leadingDigits limit (fixedDigits width n ++ rest) = fixedDigits width n := by
    apply leadingDigits_append fun c hc => isDigit_of_mem_fixedDigits hc
    · rw [length_fixedDigits]
      exact hle
    · rw [length_fixedDigits]
      exact hend
  have hne := fixedDigits_ne_nil hpos n
  have hall : fixedDigits width n ++ rest ≠ [] := by simp [hne]
  simp only [readNumber, hleading, if_neg hne, if_neg hall, digitsValue_fixedDigits hn,
    List.drop_left]

theorem exists_cons_fixedDigits {width : Nat} (h : 0 < width) (n : Nat) :
    ∃ digit < 10, ∃ rest, fixedDigits width n = digitChar digit :: rest := by
  induction width generalizing n with
  | zero => omega
  | succ width ih =>
    cases width with
    | zero => exact ⟨n % 10, Nat.mod_lt n (by decide), [], rfl⟩
    | succ width =>
      obtain ⟨digit, hdigit, rest, hrest⟩ := ih (by omega) (n / 10)
      refine ⟨digit, hdigit, rest ++ [digitChar (n % 10)], ?_⟩
      rw [fixedDigits, hrest, List.cons_append]

theorem dropBlanks_cons {c : Char} {rest : List Char} (h : Text.isBlank c = false) :
    Text.dropBlanks (c :: rest) = c :: rest := by
  simp [Text.dropBlanks, h]

theorem dropBlanks_fixedDigits {width : Nat} (h : 0 < width) (n : Nat) (rest : List Char) :
    Text.dropBlanks (fixedDigits width n ++ rest) = fixedDigits width n ++ rest := by
  obtain ⟨digit, hdigit, more, hmore⟩ := exists_cons_fixedDigits h n
  rw [hmore, List.cons_append, dropBlanks_cons (isBlank_digitChar hdigit)]

/-! ## Parts of a timestamp -/

theorem readField_fixedDigits
    {low high n : Nat} (hlow : low ≤ n) (hhigh : n ≤ high) (hn : n < 100) (rest : List Char) :
    readField 2 low high (fixedDigits 2 n ++ rest) = .ok (n, rest) := by
  have hnumber : readNumber 2 (fixedDigits 2 n ++ rest) = .ok (n, rest) :=
    readNumber_fixedDigits (by decide) (by decide) hn (Or.inl rfl)
  rw [readField, dropBlanks_fixedDigits (by decide), hnumber]
  simp only [bind, Except.bind, if_pos (And.intro hlow hhigh)]
  rfl

theorem readMark_cons (mark : Char) (rest : List Char) :
    readMark mark (mark :: rest) = .ok rest := by
  rw [readMark, if_pos rfl]

theorem yearDigits_eq {n : Nat} (h : n < 1000000) :
    ∃ width, 4 ≤ width ∧ n < Nat.pow 10 width ∧ yearDigits n = fixedDigits width n ∧
      (n < 10000 → width = 4) := by
  unfold yearDigits
  by_cases hfour : n < 10000
  · exact ⟨4, by omega, by simpa using hfour, by rw [if_pos hfour], fun _ => rfl⟩
  by_cases hfive : n < 100000
  · exact ⟨5, by omega, by simpa using hfive, by rw [if_neg hfour, if_pos hfive],
      fun h => absurd h hfour⟩
  · exact ⟨6, by omega, by simpa using h, by rw [if_neg hfour, if_neg hfive],
      fun h => absurd h hfour⟩

/-- A year with a sign is read whole. -/
theorem readNumber_yearDigits
    {n : Nat} (hn : n < 1000000) {rest : List Char} (hrest : NoDigit rest) :
    readNumber (yearDigits n ++ rest).length (yearDigits n ++ rest) = .ok (n, rest) := by
  obtain ⟨width, hwidth, hlt, heq, -⟩ := yearDigits_eq hn
  rw [heq]
  apply readNumber_fixedDigits (by omega) ?_ hlt (Or.inr hrest)
  rw [List.length_append, length_fixedDigits]
  omega

theorem readYear_yearChars
    {year : Int} (hfirst : firstYear ≤ year) (hlast : year ≤ lastYear)
    {rest : List Char} (hrest : NoDigit rest) :
    readYear (yearChars year ++ rest) = .ok (year, rest) := by
  have hbound : year.natAbs < 1000000 := by
    simp only [firstYear, lastYear] at hfirst hlast
    omega
  unfold yearChars
  by_cases hplain : 0 ≤ year ∧ year ≤ 9999
  · obtain ⟨width, -, hlt, heq, hfour⟩ := yearDigits_eq (n := year.toNat) (by omega)
    obtain rfl := hfour (by omega)
    have hfour : 0 < 4 := by decide
    obtain ⟨digit, hdigit, more, hmore⟩ := exists_cons_fixedDigits hfour year.toNat
    have hminus : digitChar digit ≠ '-' := by
      intro h
      have := isDigit_digitChar hdigit
      rw [h] at this
      exact absurd this (by decide)
    have hplus : digitChar digit ≠ '+' := by
      intro h
      have := isDigit_digitChar hdigit
      rw [h] at this
      exact absurd this (by decide)
    have hnumber : readNumber 4 (fixedDigits 4 year.toNat ++ rest) = .ok (year.toNat, rest) :=
      readNumber_fixedDigits (by omega) (by omega) hlt (Or.inl rfl)
    rw [if_pos hplain, heq, readYear, dropBlanks_fixedDigits (by omega)]
    rw [hmore, List.cons_append] at hnumber ⊢
    split
    next heq' => exact absurd (List.cons.inj heq').1 hminus
    next heq' => exact absurd (List.cons.inj heq').1 hplus
    next =>
      rw [hnumber]
      simp only [bind, Except.bind, pure, Except.pure]
      rw [Int.toNat_of_nonneg hplain.1]
  rw [if_neg hplain]
  by_cases hneg : year < 0
  · have hlimit : year.natAbs ≤ yearLimit + 1 := by
      simp only [yearLimit]
      omega
    rw [if_pos hneg, readYear, List.cons_append, dropBlanks_cons (by decide)]
    simp only [readNumber_yearDigits hbound hrest, bind, Except.bind, if_pos hlimit, pure,
      Except.pure]
    congr 2
    omega
  · have hlimit : year.natAbs ≤ yearLimit := by
      simp only [yearLimit]
      omega
    rw [if_neg hneg, readYear, List.cons_append, dropBlanks_cons (by decide)]
    simp only [readNumber_yearDigits hbound hrest, bind, Except.bind, if_pos hlimit, pure,
      Except.pure]
    congr 2
    omega

theorem readDateParts_toChars (loose : Bool) (d : Date) {rest : List Char} :
    readDateParts loose (d.toChars ++ rest) = .ok ((d.year, d.month, d.day), rest) := by
  obtain ⟨year, month, day, ⟨hfirst, hlast⟩, ⟨hmonth, hmonth'⟩, hday, hday'⟩ := d
  have hlength := monthLength_le year month
  have hchars : Date.toChars ⟨year, month, day, ⟨hfirst, hlast⟩, ⟨hmonth, hmonth'⟩, hday, hday'⟩ ++
      rest = yearChars year ++ ('-' :: (fixedDigits 2 month ++ ('-' ::
        (fixedDigits 2 day ++ rest)))) := by
    simp [Date.toChars]
  have hskip (rest : List Char) :
      (if loose then Text.dropBlanks else id) ('-' :: rest) = '-' :: rest := by
    cases loose with
    | true => exact dropBlanks_cons (by decide)
    | false => rfl
  rw [hchars, readDateParts, readYear_yearChars hfirst hlast (noDigit_cons rfl)]
  simp only [bind, Except.bind, hskip, readMark_cons,
    readField_fixedDigits hmonth hmonth' (by omega),
    readField_fixedDigits hday (show day ≤ 31 by omega) (by omega), pure, Except.pure]

theorem readFraction_fixedDigits
    {width n : Nat} (hpos : 0 < width) (hle : width ≤ 9) (hn : n < Nat.pow 10 width)
    {rest : List Char} (hrest : NoDigit rest) :
    readFraction ('.' :: fixedDigits width n ++ rest) = .ok (n * Nat.pow 10 (9 - width), rest) := by
  have hleading : leadingDigits 9 (fixedDigits width n ++ rest) = fixedDigits width n := by
    apply leadingDigits_append fun c hc => isDigit_of_mem_fixedDigits hc
    · rw [length_fixedDigits]
      exact hle
    · exact Or.inr hrest
  have hdrop : rest.dropWhile Char.isDigit = rest := by
    cases rest with
    | nil => rfl
    | cons c rest => simp [hrest c rest rfl]
  rw [List.cons_append, readFraction]
  simp only [hleading, hdrop, readNumber_fixedDigits hpos hle hn (Or.inr hrest), bind,
    Except.bind, length_fixedDigits, pure, Except.pure]

theorem readFraction_fractionChars
    {nano : Nat} (hnano : nano < secondNanos)
    {rest : List Char} (hrest : NoDigit rest) (hpoint : ∀ more, rest ≠ '.' :: more) :
    readFraction (Timestamp.fractionChars nano ++ rest) = .ok (nano, rest) := by
  simp only [secondNanos] at hnano
  unfold Timestamp.fractionChars
  by_cases hzero : nano = 0
  · rw [if_pos hzero, List.nil_append, hzero]
    unfold readFraction
    split
    next more => exact absurd rfl (hpoint more)
    next => rfl
  rw [if_neg hzero]
  by_cases hmilli : nano % 1000000 = 0
  · have hshort : nano / 1000000 < Nat.pow 10 3 := by
      simp only [Nat.pow_eq, Nat.reducePow]
      omega
    rw [if_pos hmilli, readFraction_fixedDigits (by omega) (by omega) hshort hrest]
    congr 2
    simp only [Nat.pow_eq, Nat.reduceSub, Nat.reducePow]
    omega
  rw [if_neg hmilli]
  by_cases hmicro : nano % 1000 = 0
  · have hshort : nano / 1000 < Nat.pow 10 6 := by
      simp only [Nat.pow_eq, Nat.reducePow]
      omega
    rw [if_pos hmicro, readFraction_fixedDigits (by omega) (by omega) hshort hrest]
    congr 2
    simp only [Nat.pow_eq, Nat.reduceSub, Nat.reducePow]
    omega
  · rw [if_neg hmicro, readFraction_fixedDigits (by omega) (by omega) (by omega) hrest]
    congr 2
    simp only [Nat.pow_eq, Nat.reduceSub, Nat.reducePow]
    omega

/-- The time of day is read back, a leap second included. -/
theorem readClockTime_timeChars
    {second nano : Nat} (h : IsTimeOfDay second nano)
    {rest : List Char} (hrest : NoDigit rest) (hpoint : ∀ more, rest ≠ '.' :: more) :
    ∃ time : ClockTime,
      readClockTime (Timestamp.timeChars second nano ++ rest) = .ok (time, rest) ∧
        time.daySecond = second ∧ time.dayNano = nano := by
  obtain ⟨hsecond, hnano⟩ := h
  simp only [daySeconds] at hsecond
  -- a leap second is written one second later and a thousand million nanoseconds less
  obtain ⟨leap, fraction, hleap, hfraction, hlt, hle, hshown⟩ :
      ∃ leap fraction : Nat,
        leap = (if secondNanos ≤ nano then 1 else 0) ∧
        fraction = (nano - if secondNanos ≤ nano then secondNanos else 0) ∧
        fraction < secondNanos ∧ second % 60 + leap ≤ 60 ∧
        (second % 60 + leap = 60 ∧ second % 60 = 59 ∧ nano = fraction + secondNanos ∨
          second % 60 + leap ≠ 60 ∧ leap = 0 ∧ nano = fraction) := by
    by_cases h : secondNanos ≤ nano
    · refine ⟨1, nano - secondNanos, by rw [if_pos h], by rw [if_pos h], ?_⟩
      omega
    · refine ⟨0, nano, by rw [if_neg h], by rw [if_neg h, Nat.sub_zero], ?_⟩
      omega
  have hchars : Timestamp.timeChars second nano ++ rest =
      fixedDigits 2 (second / 3600) ++ (':' :: (fixedDigits 2 (second / 60 % 60) ++
        (':' :: (fixedDigits 2 (second % 60 + leap) ++
          (Timestamp.fractionChars fraction ++ rest))))) := by
    simp [Timestamp.timeChars, hleap, hfraction]
  refine ⟨⟨second / 3600, second / 60 % 60, second % 60 + leap, fraction⟩, ?_, ?_, ?_⟩
  · rw [hchars, readClockTime]
    simp only [readField_fixedDigits (Nat.zero_le (second / 3600))
        (show second / 3600 ≤ 23 by omega) (by omega),
      readField_fixedDigits (Nat.zero_le (second / 60 % 60))
        (show second / 60 % 60 ≤ 59 by omega) (by omega),
      readField_fixedDigits (Nat.zero_le (second % 60 + leap)) hle (by omega),
      dropBlanks_cons (show Text.isBlank ':' = false by decide), readMark_cons,
      readFraction_fractionChars hlt hrest hpoint, bind, Except.bind, pure, Except.pure]
  · simp only [ClockTime.daySecond]
    omega
  · simp only [ClockTime.dayNano]
    rcases hshown with ⟨hsixty, -, hnano⟩ | ⟨hother, -, hnano⟩
    · rw [if_pos hsixty, hnano]
    · rw [if_neg hother, hnano, Nat.add_zero]

/-! ## Dates and timestamps -/

theorem Date.ofParts?_self (d : Date) : Date.ofParts? d.year d.month d.day = some d := by
  rw [Date.ofParts?, dif_pos d.isDate]

/-- A date reads back from its written form. -/
theorem Date.read_text (d : Date) : Date.read d.text = .ok d := by
  have hchars : d.text.toList = d.toChars ++ [] := by simp [Date.text]
  rw [Date.read, hchars, readDateParts_toChars]
  simp only [bind, Except.bind, ne_eq, not_true_eq_false, if_false, Date.ofParts?_self, pure,
    Except.pure]

theorem Date.read_of_text {d : Date} {text : String} (h : d.text = text) :
    Date.read text = .ok d := by
  rw [← h, Date.read_text]

/-- Different dates are written differently. -/
theorem Date.text_injective {d e : Date} (h : d.text = e.text) : d = e := by
  have hread := Date.read_text d
  rw [h, Date.read_text] at hread
  exact (Except.ok.inj hread).symm

theorem Timestamp.ofLocal?_zero (t : Timestamp) :
    Timestamp.ofLocal? t.date t.second t.nano 0 = some t := by
  have hlow : ¬(t.second : Int) - 0 < 0 := by omega
  have hhigh : (t.second : Int) - 0 < daySeconds := by
    have := t.isTime.1
    omega
  rw [Timestamp.ofLocal?, if_neg hlow, if_pos hhigh, Int.sub_zero, Int.toNat_natCast,
    Timestamp.ofParts?, dif_pos t.isTime]

/-- A timestamp reads back from its written form. -/
theorem Timestamp.read_text (t : Timestamp) : Timestamp.read t.text = .ok t := by
  have hrest : NoDigit ['Z'] := noDigit_cons rfl
  obtain ⟨time, htime, hsecond, hnano⟩ := readClockTime_timeChars t.isTime hrest (by simp)
  have hchars :
      t.text.toList = t.date.toChars ++ ('T' :: (timeChars t.second t.nano ++ ['Z'])) := by
    simp [Timestamp.text, Timestamp.toChars]
  have hoffset : readOffset (Text.dropBlanks ['Z']) = .ok (0, []) := rfl
  rw [Timestamp.read, hchars, readDateParts_toChars]
  simp only [bind, Except.bind, readSeparator, Char.reduceEq, or_false, or_true, if_true, htime,
    hoffset]
  simp only [Text.dropBlanks, List.dropWhile_nil, ne_eq, not_true_eq_false, if_false, hsecond,
    hnano, Date.ofParts?_self, Timestamp.ofLocal?_zero, Int.natAbs_zero, pure, Except.pure]
  rfl

end SealedVault.Calendar
