/-!
# Dates

Days of the proleptic Gregorian calendar within a fixed range of years, the day before and after
each, and their order.
-/

namespace SealedVault.Calendar

/-- The first year that has dates. -/
def firstYear : Int := -262143

/-- The last year that has dates. -/
def lastYear : Int := 262142

/-- Every fourth year is a leap year, except for centuries not divisible by 400. -/
def IsLeapYear (year : Int) : Prop := year % 4 = 0 ∧ (year % 100 ≠ 0 ∨ year % 400 = 0)

instance (year : Int) : Decidable (IsLeapYear year) :=
  inferInstanceAs (Decidable (_ ∧ _))

/-- The number of days in a month. -/
def monthLength (year : Int) (month : Nat) : Nat :=
  if month = 2 then (if IsLeapYear year then 29 else 28)
  else if month = 4 ∨ month = 6 ∨ month = 9 ∨ month = 11 then 30
  else 31

/-- The year, month and day name a date. -/
def IsDate (year : Int) (month day : Nat) : Prop :=
  (firstYear ≤ year ∧ year ≤ lastYear) ∧ (1 ≤ month ∧ month ≤ 12) ∧
    (1 ≤ day ∧ day ≤ monthLength year month)

instance (year : Int) (month day : Nat) : Decidable (IsDate year month day) :=
  inferInstanceAs (Decidable (_ ∧ _))

/-- A day of the calendar. -/
structure Date where
  year : Int
  month : Nat
  day : Nat
  isDate : IsDate year month day
deriving DecidableEq

theorem monthLength_le (year : Int) (month : Nat) : monthLength year month ≤ 31 := by
  unfold monthLength
  split
  · split <;> omega
  · split <;> omega

namespace Date

/-- The date of the given year, month and day. -/
def ofParts? (year : Int) (month day : Nat) : Option Date :=
  if h : IsDate year month day then some ⟨year, month, day, h⟩ else none

/-- The day after; there is none after the last date. -/
def next? (d : Date) : Option Date :=
  if d.day < monthLength d.year d.month then ofParts? d.year d.month (d.day + 1)
  else if d.month < 12 then ofParts? d.year (d.month + 1) 1
  else ofParts? (d.year + 1) 1 1

/-- The day before; there is none before the first date. -/
def previous? (d : Date) : Option Date :=
  if 1 < d.day then ofParts? d.year d.month (d.day - 1)
  else if 1 < d.month then ofParts? d.year (d.month - 1) (monthLength d.year (d.month - 1))
  else ofParts? (d.year - 1) 12 31

/-- A number that grows with the date. -/
def rank (d : Date) : Int := d.year * 372 + (d.month * 31 + d.day : Nat)

instance : LE Date := ⟨fun a b => a.rank ≤ b.rank⟩

instance (a b : Date) : Decidable (a ≤ b) := inferInstanceAs (Decidable (a.rank ≤ b.rank))

theorem eq_of_ofParts?
    {year : Int} {month day : Nat} {d : Date} (h : ofParts? year month day = some d) :
    d.year = year ∧ d.month = month ∧ d.day = day := by
  unfold ofParts? at h
  split at h
  · cases h
    exact ⟨rfl, rfl, rfl⟩
  · simp at h

/-- The day after a date ranks above it. -/
theorem rank_lt_of_next? {d e : Date} (h : d.next? = some e) : d.rank < e.rank := by
  obtain ⟨year, month, day, hy, hm, hd⟩ := d
  have hlen := monthLength_le year month
  unfold next? at h
  simp only at h
  split at h
  · obtain ⟨h1, h2, h3⟩ := eq_of_ofParts? h
    simp only [rank, h1, h2, h3]
    omega
  · split at h
    · obtain ⟨h1, h2, h3⟩ := eq_of_ofParts? h
      simp only [rank, h1, h2, h3]
      omega
    · obtain ⟨h1, h2, h3⟩ := eq_of_ofParts? h
      simp only [rank, h1, h2, h3]
      omega

/-- The decimal digit of a number below ten. -/
def digitChar (n : Nat) : Char := Char.ofNat (0x30 + n)

/-- The last `width` decimal digits of a number. -/
def fixedDigits : (width : Nat) → Nat → List Char
  | 0, _ => []
  | width + 1, n => fixedDigits width (n / 10) ++ [digitChar (n % 10)]

/-- The digits of a year: four, or more where four do not hold it. -/
def yearDigits (n : Nat) : List Char :=
  fixedDigits (if n < 10000 then 4 else if n < 100000 then 5 else 6) n

/-- A year of four digits stands alone; any other has a sign. -/
def yearChars (year : Int) : List Char :=
  if 0 ≤ year ∧ year ≤ 9999 then yearDigits year.toNat
  else if year < 0 then '-' :: yearDigits year.natAbs
  else '+' :: yearDigits year.natAbs

/-- Year, month and day with dashes between. -/
def toChars (d : Date) : List Char :=
  yearChars d.year ++ '-' :: fixedDigits 2 d.month ++ '-' :: fixedDigits 2 d.day

/-- The written form of a date. -/
def text (d : Date) : String := String.ofList d.toChars

end Date

end SealedVault.Calendar
