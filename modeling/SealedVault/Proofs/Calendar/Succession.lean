import SealedVault.Calendar.Date
import Mathlib.Order.Basic

/-!
# The succession of dates

Dates are ordered by year, month and day. The day after a date is the least date above it, and only
the last date of the calendar has none. So the walk from one date to another, day after day, meets
every date between them once, whatever months end and whatever years are leap years on the way.
-/

namespace SealedVault.Calendar

theorem one_le_monthLength (year : Int) (month : Nat) : 1 ≤ monthLength year month := by
  unfold monthLength
  split
  · split <;> omega
  · split <;> omega

namespace Date

variable {a b d day first last next : Date} {days : List Date}

/-- The last date of the calendar. -/
def final : Date := ⟨lastYear, 12, 31, by decide⟩

/-! ## The order -/

/-- The date of lower rank is of an earlier year, or of an earlier month of the same year, or an
earlier day of the same month. -/
theorem rank_lt_rank_iff :
    a.rank < b.rank ↔ a.year < b.year ∨
      a.year = b.year ∧ (a.month < b.month ∨ a.month = b.month ∧ a.day < b.day) := by
  obtain ⟨year, month, day, -, ⟨hmonth, hmonth'⟩, hday, hday'⟩ := a
  obtain ⟨year', month', day', -, ⟨hmore, hmore'⟩, hlate, hlate'⟩ := b
  have hlength := monthLength_le year month
  have hlength' := monthLength_le year' month'
  simp only [rank]
  omega

theorem rank_injective (h : a.rank = b.rank) : a = b := by
  have hnot : ¬a.rank < b.rank := by omega
  have hnot' : ¬b.rank < a.rank := by omega
  rw [rank_lt_rank_iff] at hnot hnot'
  obtain ⟨year, month, day, hdate⟩ := a
  obtain ⟨year', month', day', hdate'⟩ := b
  simp only at hnot hnot'
  obtain rfl : year = year' := by omega
  obtain rfl : month = month' := by omega
  obtain rfl : day = day' := by omega
  rfl

instance : LT Date := ⟨fun a b => a.rank < b.rank⟩

instance : LinearOrder Date where
  le_refl a := Int.le_refl a.rank
  le_trans _ _ _ := Int.le_trans
  lt_iff_le_not_ge _ _ := Int.lt_iff_le_and_not_ge
  le_antisymm _ _ h h' := rank_injective (Int.le_antisymm h h')
  le_total a b := Int.le_total a.rank b.rank
  toDecidableLE := inferInstance
  toDecidableEq := inferInstance

theorem le_iff_rank : a ≤ b ↔ a.rank ≤ b.rank := Iff.rfl

theorem lt_iff :
    a < b ↔ a.year < b.year ∨
      a.year = b.year ∧ (a.month < b.month ∨ a.month = b.month ∧ a.day < b.day) :=
  rank_lt_rank_iff

theorem le_final (d : Date) : d ≤ final := by
  obtain ⟨year, month, day, ⟨-, hyear⟩, ⟨-, hmonth⟩, -, hday⟩ := d
  have hlength := monthLength_le year month
  simp only [le_iff_rank, rank, final]
  omega

/-! ## The day after -/

theorem ofParts?_of_isDate {year : Int} {month day : Nat} (h : IsDate year month day) :
    ofParts? year month day = some ⟨year, month, day, h⟩ := by
  rw [ofParts?, dif_pos h]

theorem lt_of_next? (h : a.next? = some b) : a < b := rank_lt_of_next? h

/-- Where there is a date above, there is a day after, and it is the least date above. -/
theorem exists_next?_of_lt (h : a < b) : ∃ next, a.next? = some next ∧ next ≤ b := by
  rw [lt_iff] at h
  obtain ⟨year, month, day, ⟨hfirst, hlast⟩, ⟨hmonth, hmonth'⟩, hday, hday'⟩ := a
  obtain ⟨year', month', day', ⟨hfirst', hlast'⟩, ⟨hmore, hmore'⟩, hlate, hlate'⟩ := b
  simp only at h
  unfold next?
  by_cases hwithin : day < monthLength year month
  · have hdate : IsDate year month (day + 1) :=
      ⟨⟨hfirst, hlast⟩, ⟨hmonth, hmonth'⟩, by omega, hwithin⟩
    refine ⟨_, (if_pos hwithin).trans (ofParts?_of_isDate hdate), ?_⟩
    rw [← not_lt, lt_iff]
    simp only
    omega
  -- the month ends with the date, so the date above is in none of its days
  have hbeyond : year = year' → month ≠ month' := by
    rintro rfl rfl
    omega
  by_cases hyear : month < 12
  · have hdate : IsDate year (month + 1) 1 :=
      ⟨⟨hfirst, hlast⟩, ⟨by omega, by omega⟩, Nat.le_refl 1, one_le_monthLength year (month + 1)⟩
    refine ⟨_, (if_neg hwithin).trans ((if_pos hyear).trans (ofParts?_of_isDate hdate)), ?_⟩
    rw [← not_lt, lt_iff]
    simp only
    omega
  · have hdate : IsDate (year + 1) 1 1 :=
      ⟨⟨by omega, by omega⟩, ⟨Nat.le_refl 1, by omega⟩, Nat.le_refl 1,
        one_le_monthLength (year + 1) 1⟩
    refine ⟨_, (if_neg hwithin).trans ((if_neg hyear).trans (ofParts?_of_isDate hdate)), ?_⟩
    rw [← not_lt, lt_iff]
    simp only
    omega

theorem le_of_next?_of_lt (hnext : a.next? = some next) (h : a < b) : next ≤ b := by
  obtain ⟨found, hfound, hle⟩ := exists_next?_of_lt h
  rw [hnext] at hfound
  cases hfound
  exact hle

/-- Only the last date of the calendar has no day after it. -/
theorem next?_eq_none_iff : d.next? = none ↔ d = final := by
  constructor
  · intro hnone
    by_contra hne
    obtain ⟨next, hnext, -⟩ := exists_next?_of_lt (lt_of_le_of_ne (le_final d) hne)
    rw [hnone] at hnext
    cases hnext
  · rintro rfl
    decide

/-! ## Ranges -/

/-- The dates from `first` to `last`, both included, in order. -/
def upTo (first last : Date) : List Date :=
  if first ≤ last then
    first :: (match _h : first.next? with
      | some next => upTo next last
      | none => [])
  else []
termination_by (last.rank + 1 - first.rank).toNat
decreasing_by
  have := rank_lt_of_next? _h
  have : first.rank ≤ last.rank := ‹first ≤ last›
  omega

/-- The list holds the dates from `first` to `last`, both included, each of them once, in ascending
order. -/
structure IsRange (first last : Date) (days : List Date) : Prop where
  mem_iff (day : Date) : day ∈ days ↔ first ≤ day ∧ day ≤ last
  ascending : days.Pairwise (· < ·)

theorem upTo_of_not_le (h : ¬first ≤ last) : first.upTo last = [] := by
  rw [upTo, if_neg h]

theorem upTo_of_next? (h : first ≤ last) (hnext : first.next? = some next) :
    first.upTo last = first :: next.upTo last := by
  rw [upTo, if_pos h]
  split
  next found hfound =>
    rw [hnext] at hfound
    cases hfound
    rfl
  next hnone =>
    rw [hnext] at hnone
    cases hnone

theorem isRange_nil (h : ¬first ≤ last) : IsRange first last [] := by
  refine ⟨fun day => ?_, .nil⟩
  simp only [List.not_mem_nil, false_iff, not_and]
  exact fun hle hle' => h (hle.trans hle')

theorem isRange_final (h : final ≤ last) : IsRange final last [final] := by
  refine ⟨fun day => ?_, List.pairwise_singleton _ _⟩
  rw [List.mem_singleton]
  constructor
  · rintro rfl
    exact ⟨le_rfl, h⟩
  · rintro ⟨hle, -⟩
    exact le_antisymm (le_final day) hle

/-- A range is made of its first date and the range from the day after. -/
theorem IsRange.cons (h : first ≤ last) (hnext : first.next? = some next)
    (hrest : IsRange next last days) : IsRange first last (first :: days) := by
  have hlt := lt_of_next? hnext
  constructor
  · intro day
    rw [List.mem_cons, hrest.mem_iff]
    constructor
    · rintro (rfl | ⟨hle, hle'⟩)
      · exact ⟨le_rfl, h⟩
      · exact ⟨hlt.le.trans hle, hle'⟩
    · rintro ⟨hle, hle'⟩
      rcases hle.eq_or_lt with rfl | hlt'
      · exact Or.inl rfl
      · exact Or.inr ⟨le_of_next?_of_lt hnext hlt', hle'⟩
  · rw [List.pairwise_cons]
    exact ⟨fun day hday => hlt.trans_le ((hrest.mem_iff day).mp hday).1, hrest.ascending⟩

/-- Going on from day to day meets the dates of the range. -/
theorem isRange_upTo (first last : Date) : IsRange first last (first.upTo last) := by
  fun_induction upTo first last with
  | case1 first hle ih =>
    split
    next next hnext => exact (ih next hnext).cons hle hnext
    next hnone =>
      obtain rfl := next?_eq_none_iff.mp hnone
      exact isRange_final hle
  | case2 first hle => exact isRange_nil hle

end Date

end SealedVault.Calendar
