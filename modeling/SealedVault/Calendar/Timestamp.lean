import SealedVault.Calendar.Date

/-!
# Timestamps

Instants in universal time, to the nanosecond. A leap second is the second after the last one of
a minute and is kept as that last second with more than a thousand million nanoseconds.
-/

namespace SealedVault.Calendar

/-- The number of seconds in a day. -/
def daySeconds : Nat := 86400

/-- The number of nanoseconds in a second. -/
def secondNanos : Nat := 1000000000

/-- A second of the day and nanoseconds within it; only the last second of a minute can be a leap
second. -/
def IsTimeOfDay (second nano : Nat) : Prop :=
  second < daySeconds ∧ (nano < secondNanos ∨ second % 60 = 59 ∧ nano < 2 * secondNanos)

instance (second nano : Nat) : Decidable (IsTimeOfDay second nano) :=
  inferInstanceAs (Decidable (_ ∧ _))

/-- An instant in universal time. -/
structure Timestamp where
  date : Date
  /-- The seconds since the day began. -/
  second : Nat
  /-- The nanoseconds since that second began. -/
  nano : Nat
  isTime : IsTimeOfDay second nano
deriving DecidableEq

namespace Timestamp

/-- The instant at the given second and nanosecond of a date. -/
def ofParts? (date : Date) (second nano : Nat) : Option Timestamp :=
  if h : IsTimeOfDay second nano then some ⟨date, second, nano, h⟩ else none

/-- The instant that a clock shows as the given date and second, when it is ahead of universal
time by `offset` seconds, which is less than a day either way. -/
def ofLocal? (date : Date) (second nano : Nat) (offset : Int) : Option Timestamp :=
  let universal := (second : Int) - offset
  if universal < 0 then
    date.previous?.bind fun d => ofParts? d (universal + daySeconds).toNat nano
  else if universal < daySeconds then
    ofParts? date universal.toNat nano
  else
    date.next?.bind fun d => ofParts? d (universal - daySeconds).toNat nano

/-- The fraction of a second in three, six or nine digits, as few as hold it, or none. -/
def fractionChars (nano : Nat) : List Char :=
  if nano = 0 then []
  else if nano % 1000000 = 0 then '.' :: Date.fixedDigits 3 (nano / 1000000)
  else if nano % 1000 = 0 then '.' :: Date.fixedDigits 6 (nano / 1000)
  else '.' :: Date.fixedDigits 9 nano

/-- The time of day; a leap second is written as second 60. -/
def timeChars (second nano : Nat) : List Char :=
  let leap := secondNanos ≤ nano
  Date.fixedDigits 2 (second / 3600) ++ ':' :: Date.fixedDigits 2 (second / 60 % 60) ++
    ':' :: Date.fixedDigits 2 (second % 60 + if leap then 1 else 0) ++
    fractionChars (nano - if leap then secondNanos else 0)

/-- The written form of an instant as characters. -/
def toChars (t : Timestamp) : List Char :=
  t.date.toChars ++ 'T' :: timeChars t.second t.nano ++ ['Z']

/-- The written form of an instant, in universal time. -/
def text (t : Timestamp) : String := String.ofList t.toChars

end Timestamp

end SealedVault.Calendar
