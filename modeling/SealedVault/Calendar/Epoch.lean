import SealedVault.Calendar.Timestamp

/-!
# The epoch

Instants as clocks count them: in nanoseconds since the year 1970 began. To find the date of a day
that is given by its number, years are begun with March, so that a leap day ends its year, and
taken in cycles of four hundred, all of which have the same number of days.
-/

namespace SealedVault.Calendar

/-- The number of days in four hundred years. -/
def cycleDays : Nat := 146097

/-- The number of days from the first of March of the year 0 to the first day of 1970. -/
def epochOffset : Int := 719468

/-- The year of its cycle to which a day of the cycle belongs. -/
def yearOfCycle (day : Nat) : Nat := (day - day / 1460 + day / 36524 - day / 146096) / 365

namespace Date

/-- The date that is `n` days after the first day of 1970. -/
def ofEpochDay? (n : Int) : Option Date :=
  let cycle := (n + epochOffset) / cycleDays
  let day := ((n + epochOffset) % cycleDays).toNat
  let year := yearOfCycle day
  let dayOfYear := day - (365 * year + year / 4 - year / 100)
  let monthsSinceMarch := (5 * dayOfYear + 2) / 153
  let dayOfMonth := dayOfYear - (153 * monthsSinceMarch + 2) / 5 + 1
  if monthsSinceMarch < 10 then ofParts? (cycle * 400 + year) (monthsSinceMarch + 3) dayOfMonth
  else ofParts? (cycle * 400 + year + 1) (monthsSinceMarch - 9) dayOfMonth

end Date

namespace Timestamp

/-- The instant that is `n` nanoseconds after the year 1970 began. -/
def ofEpochNanos? (n : Int) : Option Timestamp :=
  let seconds := n / secondNanos
  (Date.ofEpochDay? (seconds / daySeconds)).bind fun date =>
    ofParts? date (seconds % daySeconds).toNat (n % secondNanos).toNat

end Timestamp

end SealedVault.Calendar
