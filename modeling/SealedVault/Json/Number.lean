import SealedVault.Decimal.Shortest
import SealedVault.Json.Token

/-!
# Numbers

The value of a number in JSON text. Whole numbers that fit 64 bits, with or without a sign, are
kept as they are. All others become doubles: the leading digits that fit 64 bits are taken, and
their double is multiplied or divided by powers of ten.
-/

namespace SealedVault.Json

open Decimal (Binary64)

/-- A whole number, or a double with its sign. -/
inductive Number where
  | int (n : Int)
  | float (negative : Bool) (magnitude : Binary64)
deriving Repr, DecidableEq

namespace Number

/-- One more than the greatest significand. -/
def significandBound : Nat := Nat.pow 2 64

/-- The greatest power of ten that is used at once. -/
def greatestPower : Nat := 308

/-- The greatest exponent that is read. -/
def exponentLimit : Nat := 2147483647

/-- Appends digits to a significand as long as it stays below the bound. -/
def appendDigits (significand : Nat) : List Nat → Nat × List Nat
  | [] => (significand, [])
  | d :: rest =>
    if significand * 10 + d < significandBound then appendDigits (significand * 10 + d) rest
    else (significand, d :: rest)

/-- Multiplies a double by a power of ten, if the result is not too large. -/
def timesPowerOfTen? (x : Binary64) (exponent : Int) : Option Binary64 :=
  if exponent.natAbs ≤ greatestPower then
    (Binary64.powerOfTen? exponent.natAbs).bind fun power =>
      if 0 ≤ exponent then x.mul? power else x.div? power
  else if x.mantissa = 0 then some x
  else if 0 ≤ exponent then none
  else
    ((Binary64.powerOfTen? greatestPower).bind fun power => x.div? power).bind fun y =>
      timesPowerOfTen? y (exponent + greatestPower)
termination_by exponent.natAbs
decreasing_by
  simp only [greatestPower] at *
  omega

/-- The double of a significand times a power of ten. -/
def ofParts? (negative : Bool) (significand : Nat) (exponent : Int) : Option Number := do
  let x ← Binary64.ofRatio? significand 1
  let x ← timesPowerOfTen? x exponent
  return .float negative x

/-- The value of a whole number that fits 64 bits. Minus zero, and numbers below the least one
with a sign, are doubles. -/
def ofWhole? (negative : Bool) (n : Nat) : Option Number :=
  if negative then
    if n ≠ 0 ∧ n ≤ Nat.pow 2 63 then some (.int (-(n : Int))) else ofParts? true n 0
  else some (.int n)

/-- The value of a number as it is written. -/
def ofNumeral? (n : Numeral) : Option Number :=
  let (significand, dropped) := appendDigits 0 n.whole
  if dropped = [] ∧ n.fraction = [] ∧ n.exponent = none then ofWhole? n.negative significand
  else
    let (significand, unused) := appendDigits significand n.fraction
    let exponent : Int := (dropped.length : Int) - (n.fraction.length - unused.length : Nat)
    match n.exponent with
    | none => ofParts? n.negative significand exponent
    | some (negative, digits) =>
      let size := digits.foldl (fun n d => 10 * n + d) 0
      if size ≤ exponentLimit then
        ofParts? n.negative significand (if negative then exponent - size else exponent + size)
      else if significand ≠ 0 ∧ !negative then none
      else some (.float n.negative .zero)

/-- The least exponent of ten, that of the leading digit, that is written without an exponent. -/
def leastPlain : Int := -5

/-- The least exponent of ten above those. -/
def plainBound : Int := 16

/-- The digits of a decimal: plain with at least one place after the point, or with one digit
before the point and an exponent. -/
def decimalChars (d : Decimal.Scientific) : List Char :=
  let digits := Nat.toDigits 10 d.digits
  let point : Int := digits.length + d.exponent
  let leading := point - 1
  if d.digits = 0 then ['0', '.', '0']
  else if leastPlain ≤ leading ∧ leading < plainBound then
    if 0 ≤ d.exponent then digits ++ List.replicate d.exponent.toNat '0' ++ ['.', '0']
    else if 0 < point then digits.take point.toNat ++ '.' :: digits.drop point.toNat
    else '0' :: '.' :: List.replicate (-point).toNat '0' ++ digits
  else
    let fraction := if digits.length = 1 then [] else '.' :: digits.drop 1
    let sign := if leading < 0 then '-' else '+'
    digits.take 1 ++ fraction ++ 'e' :: sign :: Nat.toDigits 10 leading.natAbs

/-- How a number is written. -/
def toChars : Number → List Char
  | int n => (toString n).toList
  | float negative magnitude =>
    (if negative then ['-'] else []) ++ decimalChars (Decimal.shortest magnitude)

end Number

end SealedVault.Json
