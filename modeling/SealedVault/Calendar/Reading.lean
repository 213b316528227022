import SealedVault.Calendar.Timestamp
import SealedVault.Text.Blank

/-!
# Reading dates and timestamps

A reader takes the front of a text and leaves the rest. Numbers may follow blanks; a year may
have a sign and then any number of digits. A timestamp is read generously: blanks may stand
before separators and before the offset from universal time.
-/

namespace SealedVault.Calendar

/-- Why a text is not a date or a timestamp. -/
inductive ReadFault where
  /-- The text ends too early. -/
  | tooShort
  /-- A character is not what stands there. -/
  | invalid
  /-- A number is too large or too small. -/
  | outOfRange
  /-- Characters are left over. -/
  | trailing
deriving Repr, DecidableEq

/-- What messages say of the fault. -/
def ReadFault.message : ReadFault → String
  | tooShort => "premature end of input"
  | invalid => "input contains invalid characters"
  | outOfRange => "input is out of range"
  | trailing => "trailing input"

/-- The number that decimal digits stand for. -/
def digitsValue (digits : List Char) : Nat :=
  digits.foldl (fun n c => 10 * n + (c.toNat - 0x30)) 0

/-- The digits that a text begins with, at most `width` of them. -/
def leadingDigits (width : Nat) (cs : List Char) : List Char :=
  (cs.take width).takeWhile Char.isDigit

/-- Reads a number of one to `width` digits. -/
def readNumber (width : Nat) (cs : List Char) : Except ReadFault (Nat × List Char) :=
  let digits := leadingDigits width cs
  if cs = [] then .error .tooShort
  else if digits = [] then .error .invalid
  else .ok (digitsValue digits, cs.drop digits.length)

/-- Reads a number that follows blanks and lies between two bounds. -/
def readField (width low high : Nat) (cs : List Char) : Except ReadFault (Nat × List Char) := do
  let (n, rest) ← readNumber width (Text.dropBlanks cs)
  if low ≤ n ∧ n ≤ high then return (n, rest) else throw .outOfRange

/-- The greatest number that a year is read as, before the calendar is asked. -/
def yearLimit : Nat := 2147483647

/-- Reads a year: four digits at most, or any number of them after a sign. -/
def readYear (cs : List Char) : Except ReadFault (Int × List Char) :=
  match Text.dropBlanks cs with
  | '-' :: rest => do
    let (n, rest) ← readNumber rest.length rest
    if n ≤ yearLimit + 1 then return (-(n : Int), rest) else throw .outOfRange
  | '+' :: rest => do
    let (n, rest) ← readNumber rest.length rest
    if n ≤ yearLimit then return ((n : Int), rest) else throw .outOfRange
  | rest => do
    let (n, rest) ← readNumber 4 rest
    return ((n : Int), rest)

/-- Passes over one particular character. -/
def readMark (mark : Char) : List Char → Except ReadFault (List Char)
  | [] => .error .tooShort
  | c :: rest => if c = mark then .ok rest else .error .invalid

/-- Reads year, month and day with a dash between; where `loose`, blanks may stand before a
dash. -/
def readDateParts (loose : Bool) (cs : List Char) :
    Except ReadFault ((Int × Nat × Nat) × List Char) := do
  let skip := if loose then Text.dropBlanks else id
  let (year, rest) ← readYear cs
  let rest ← readMark '-' (skip rest)
  let (month, rest) ← readField 2 1 12 rest
  let rest ← readMark '-' (skip rest)
  let (day, rest) ← readField 2 1 31 rest
  return ((year, month, day), rest)

/-- The date that a text is. -/
def Date.read (s : String) : Except ReadFault Date := do
  let ((year, month, day), rest) ← readDateParts false s.toList
  if rest ≠ [] then throw .trailing
  match Date.ofParts? year month day with
  | some d => return d
  | none => throw .outOfRange

/-- Reads the fraction of a second in nanoseconds; digits after the ninth are passed over. -/
def readFraction (cs : List Char) : Except ReadFault (Nat × List Char) :=
  match cs with
  | '.' :: rest => do
    let digits := leadingDigits 9 rest
    let (n, rest) ← readNumber 9 rest
    return (n * Nat.pow 10 (9 - digits.length), rest.dropWhile Char.isDigit)
  | _ => .ok (0, cs)

/-- A time of day as it is written, in which the second can be 60. -/
structure ClockTime where
  hour : Nat
  minute : Nat
  second : Nat
  nano : Nat
deriving Repr, DecidableEq

/-- The second of the day, a leap second counting as the second before it. -/
def ClockTime.daySecond (t : ClockTime) : Nat :=
  t.hour * 3600 + t.minute * 60 + min t.second 59

/-- The nanoseconds after `daySecond`. -/
def ClockTime.dayNano (t : ClockTime) : Nat :=
  t.nano + if t.second = 60 then secondNanos else 0

/-- Reads hour, minute and second with a colon between, and a fraction. -/
def readClockTime (cs : List Char) : Except ReadFault (ClockTime × List Char) := do
  let (hour, rest) ← readField 2 0 23 cs
  let rest ← readMark ':' (Text.dropBlanks rest)
  let (minute, rest) ← readField 2 0 59 rest
  let rest ← readMark ':' (Text.dropBlanks rest)
  let (second, rest) ← readField 2 0 60 rest
  let (nano, rest) ← readFraction rest
  return (⟨hour, minute, second, nano⟩, rest)

/-- Reads exactly two digits. -/
def readTwoDigits : List Char → Except ReadFault (Nat × List Char)
  | a :: b :: rest =>
    if a.isDigit ∧ b.isDigit then .ok (digitsValue [a, b], rest) else .error .invalid
  | _ => .error .tooShort

/-- Reads hours and minutes of an offset, between which colons and blanks may stand, as
seconds. -/
def readOffsetSize (cs : List Char) : Except ReadFault (Nat × List Char) := do
  let (hours, rest) ← readTwoDigits cs
  let (minutes, rest) ← readTwoDigits (rest.dropWhile fun c => c = ':' || Text.isBlank c)
  if minutes < 60 then return (hours * 3600 + minutes * 60, rest) else throw .outOfRange

/-- Reads the offset from universal time in seconds. -/
def readOffset (cs : List Char) : Except ReadFault (Int × List Char) :=
  match cs with
  | [] => .error .tooShort
  | sign :: rest =>
    if (cs.take 3).map Char.toUpper = ['U', 'T', 'C'] then .ok (0, cs.drop 3)
    else if sign = 'Z' ∨ sign = 'z' then .ok (0, rest)
    else if sign = '+' then do
      let (n, rest) ← readOffsetSize rest
      return ((n : Int), rest)
    else if sign = '-' ∨ sign = '\u2212' then do
      let (n, rest) ← readOffsetSize rest
      return (-(n : Int), rest)
    else .error .invalid

/-- Passes over the letter or the space between date and time. -/
def readSeparator : List Char → Except ReadFault (List Char)
  | [] => .error .tooShort
  | c :: rest => if c = 't' ∨ c = 'T' ∨ c = ' ' then .ok rest else .error .invalid

/-- The instant that a text is. -/
def Timestamp.read (s : String) : Except ReadFault Timestamp := do
  let ((year, month, day), rest) ← readDateParts true s.toList
  let rest ← readSeparator rest
  let (time, rest) ← readClockTime rest
  let (offset, rest) ← readOffset (Text.dropBlanks rest)
  if Text.dropBlanks rest ≠ [] then throw .trailing
  let some date := Date.ofParts? year month day | throw .outOfRange
  if daySeconds ≤ offset.natAbs then throw .outOfRange
  match Timestamp.ofLocal? date time.daySecond time.dayNano offset with
  | some t => return t
  | none => throw .outOfRange

end SealedVault.Calendar
