/-!
# Doubles

The nonnegative finite numbers of double precision, as a mantissa of at most 53 bits times a
power of two, with rounding of fractions to the nearest of them, a tie going to the even one.
-/

namespace SealedVault.Decimal

/-- The number `mantissa * 2 ^ exponent`. A mantissa below `2 ^ 52` occurs only with the least
exponent. -/
structure Binary64 where
  mantissa : Nat
  exponent : Int
deriving Repr, DecidableEq

namespace Binary64

/-- The exponent of the smallest numbers. -/
def leastExponent : Int := -1074

/-- The exponent of the largest numbers. -/
def greatestExponent : Int := 971

/-- One more than the greatest mantissa. -/
def mantissaBound : Nat := Nat.pow 2 53

/-- The double of zero. -/
def zero : Binary64 := ⟨0, leastExponent⟩

/-- Numerator and denominator of `num / den` divided by `2 ^ exponent`. -/
def scale (num den : Nat) (exponent : Int) : Nat × Nat :=
  (num * Nat.pow 2 (-exponent).toNat, den * Nat.pow 2 exponent.toNat)

/-- The nearest whole number to a fraction, a tie going to the even one. -/
def roundHalfEven (num den : Nat) : Nat :=
  let quotient := num / den
  let remainder := num % den
  if 2 * remainder < den ∨ 2 * remainder = den ∧ quotient % 2 = 0 then quotient
  else quotient + 1

/-- The least exponent with which the whole part of `num / den` fits the mantissa. -/
def fittingExponent (num den : Nat) : Int :=
  let guess : Int := (Nat.log2 num : Int) - (Nat.log2 den : Int) - 53
  let fits (e : Int) : Bool :=
    let (n, d) := scale num den e
    n / d < mantissaBound
  if fits guess then guess else if fits (guess + 1) then guess + 1 else guess + 2

/-- The double nearest to the fraction `num / den`, if it is not too large. -/
def ofRatio? (num den : Nat) : Option Binary64 :=
  if num = 0 then some zero
  else
    let exponent := max leastExponent (fittingExponent num den)
    let (n, d) := scale num den exponent
    let mantissa := roundHalfEven n d
    let (mantissa, exponent) :=
      if mantissa = mantissaBound then (mantissa / 2, exponent + 1) else (mantissa, exponent)
    if exponent ≤ greatestExponent then some ⟨mantissa, exponent⟩ else none

/-- Numerator and denominator of a double. -/
def toRatio (x : Binary64) : Nat × Nat :=
  (x.mantissa * Nat.pow 2 x.exponent.toNat, Nat.pow 2 (-x.exponent).toNat)

/-- The double nearest to a product. -/
def mul? (x y : Binary64) : Option Binary64 :=
  let (a, b) := x.toRatio
  let (c, d) := y.toRatio
  ofRatio? (a * c) (b * d)

/-- The double nearest to a quotient. -/
def div? (x y : Binary64) : Option Binary64 :=
  let (a, b) := x.toRatio
  let (c, d) := y.toRatio
  ofRatio? (a * d) (b * c)

/-- The double nearest to a power of ten. -/
def powerOfTen? (n : Nat) : Option Binary64 := ofRatio? (Nat.pow 10 n) 1

end Binary64

end SealedVault.Decimal
