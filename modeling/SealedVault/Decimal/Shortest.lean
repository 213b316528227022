import SealedVault.Decimal.Binary64

/-!
# Shortest decimals

The decimal number with the fewest digits that rounds to a given double, and of those the one
nearest to it. On the grid of decimals with a given number of digits, the candidates are the two
neighbours of the double.
-/

namespace SealedVault.Decimal

/-- The number `digits * 10 ^ exponent`. -/
structure Scientific where
  digits : Nat
  exponent : Int
deriving Repr, DecidableEq

namespace Shortest

/-- Four times the double and the ends of the interval that rounds to it, as multiples of
`2 ^ (exponent - 2)`. -/
structure Interval where
  low : Nat
  value : Nat
  high : Nat
  /-- The ends round to the double as well. -/
  closed : Bool
  /-- The unit of the three numbers is two to this power. -/
  unit : Int

/-- The interval of numbers that round to a double. Below a power of two the gap is half as
wide. -/
def interval (x : Binary64) : Interval where
  low := 4 * x.mantissa -
    (if x.mantissa = Nat.pow 2 52 ∧ x.exponent ≠ Binary64.leastExponent then 1 else 2)
  value := 4 * x.mantissa
  high := 4 * x.mantissa + 2
  closed := x.mantissa % 2 = 0
  unit := x.exponent - 2

/-- The number `n * 2 ^ unit` in units of `10 ^ exponent`, as numerator and denominator. -/
def onGrid (n : Nat) (unit exponent : Int) : Nat × Nat :=
  (n * Nat.pow 2 unit.toNat * Nat.pow 10 (-exponent).toNat,
    Nat.pow 2 (-unit).toNat * Nat.pow 10 exponent.toNat)

/-- The grid point lies in the interval. -/
def holds (i : Interval) (point : Nat) (exponent : Int) : Bool :=
  let (low, den) := onGrid i.low i.unit exponent
  let (high, _) := onGrid i.high i.unit exponent
  if i.closed then low ≤ point * den && point * den ≤ high
  else low < point * den && point * den < high

/-- The grid point of the interval nearest to the value, a tie going to the even one. -/
def nearest? (i : Interval) (exponent : Int) : Option Nat :=
  let (num, den) := onGrid i.value i.unit exponent
  let below := num / den
  let nearer := Binary64.roundHalfEven num den
  let other := if nearer = below then below + 1 else below
  if holds i nearer exponent then some nearer
  else if holds i other exponent then some other
  else none

/-- The number of decimal digits before the point of `num / den`, or minus the number of zeros
that follow the point. -/
def magnitude (num den : Nat) : Int :=
  if den ≤ num then ((Nat.toDigits 10 (num / den)).length : Int)
  else
    let zeros := (Nat.toDigits 10 (den / num)).length - 1
    if num * Nat.pow 10 zeros < den then -(zeros : Int) else -(zeros : Int) + 1

/-- Drops zeros from the end of the digits. -/
def normalize : (fuel : Nat) → Scientific → Scientific
  | 0, d => d
  | fuel + 1, d =>
    if d.digits ≠ 0 ∧ d.digits % 10 = 0 then normalize fuel ⟨d.digits / 10, d.exponent + 1⟩
    else d

/-- Tries grids of more and more digits; seventeen digits always suffice. -/
def search (i : Interval) (magnitude : Int) : (count digits : Nat) → Scientific
  | 0, _ => ⟨0, 0⟩
  | count + 1, digits =>
    let exponent := magnitude - digits
    match nearest? i exponent with
    | some point => normalize 20 ⟨point, exponent⟩
    | none => search i magnitude count (digits + 1)

end Shortest

/-- The shortest decimal of a double. -/
def shortest (x : Binary64) : Scientific :=
  if x.mantissa = 0 then ⟨0, 0⟩
  else
    let (num, den) := x.toRatio
    Shortest.search (Shortest.interval x) (Shortest.magnitude num den) 18 1

end SealedVault.Decimal
