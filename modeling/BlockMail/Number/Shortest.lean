import BlockMail.Number.Double

/-!
# The fewest digits that identify a double

A decimal identifies a double when it lies among the reals that round to it:
from halfway to the value below to halfway to the value above, ends included
exactly when the significand is even. The search tries grids of one, two, …
seventeen digits; on each grid only the two neighbours of the value can lie in
that interval, so the first grid with a hit has the fewest digits.
-/

set_option autoImplicit false

namespace BlockMail.Number

/-- A positive decimal, `digits * 10 ^ exponent`. -/
structure Decimal where
  digits : Nat
  exponent : Int
deriving DecidableEq

/-- Moves factors of ten from the digits to the exponent. -/
def Decimal.stripZeros (decimal : Decimal) : Decimal :=
  if _tens : decimal.digits ≠ 0 ∧ decimal.digits % 10 = 0 then
    stripZeros ⟨decimal.digits / 10, decimal.exponent + 1⟩
  else decimal
termination_by decimal.digits
decreasing_by omega

namespace Double

/-- The gap to the value below is half the gap to the value above exactly at a
power of two that is not the least normal one. -/
def narrowBelow (value : Double) : Bool :=
  value.significand == Nat.pow 2 52 && decide (-1074 < value.exponent)

/-- The least of three consecutive powers of ten, counted from an estimate by
the binary logarithm, that lies above the value. -/
def magnitude (value : Double) : Int :=
  let estimate : Int :=
    ((value.significand.log2 : Int) + value.exponent) * 30103 / 100000
  let below (power : Int) : Bool :=
    decide (value.numerator * Nat.pow 10 (-power).toNat <
      value.denominator * Nat.pow 10 power.toNat)
  if below estimate then estimate
  else if below (estimate + 1) then estimate + 1
  else estimate + 2

/-- The multiple of `10 ^ power` that identifies the value and is nearest to
it, if one identifies it at all; of two at one distance the even one. All
quantities are scaled by the same positive factor, which clears every
denominator. -/
def onGrid? (value : Double) (power : Int) : Option Nat :=
  let step := Nat.pow 10 power.toNat * Nat.pow 2 (2 - value.exponent).toNat
  let unit := Nat.pow 2 (value.exponent - 2).toNat * Nat.pow 10 (-power).toNat
  let exact := 4 * value.significand * unit
  let low := (4 * value.significand - if value.narrowBelow then 1 else 2) * unit
  let high := (4 * value.significand + 2) * unit
  let closed := value.significand % 2 == 0
  let inside (multiple : Nat) : Bool :=
    let point := multiple * step
    (decide (low < point) || (closed && low == point)) &&
      (decide (point < high) || (closed && point == high))
  let lower := exact / step
  let twice := 2 * exact
  let middle := (2 * lower + 1) * step
  match inside lower, inside (lower + 1) with
  | true, true =>
      if twice < middle then some lower
      else if twice = middle ∧ lower % 2 = 0 then some lower
      else some (lower + 1)
  | true, false => some lower
  | false, true => some (lower + 1)
  | false, false => none

/-- The exact decimal expansion of a magnitude. -/
def exactDecimal (value : Double) : Decimal :=
  ⟨value.numerator * Nat.pow 5 (-value.exponent).toNat, min value.exponent 0⟩

/-- The decimal with the fewest digits that identifies a non-zero value. No
double is known to need more than seventeen; past that the exact expansion
stands in. -/
def shortest (value : Double) : Decimal :=
  let top := value.magnitude
  let found := (List.range 17).findSome? fun (count : Nat) =>
    let power := top - ((count + 1 : Nat) : Int)
    (value.onGrid? power).map fun multiple => (⟨multiple, power⟩ : Decimal)
  (found.getD value.exactDecimal).stripZeros

end Double

end BlockMail.Number
