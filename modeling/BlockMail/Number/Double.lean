/-!
# Finite binary64 values

A finite double is a sign, a significand and a power of two, kept in the one
canonical form each value has. Arithmetic takes an exact ratio of naturals and
rounds it once, to the nearest value with ties to the even significand, so
nothing here depends on machine floating point. Infinities and NaN are not
values of the type: an operation that would reach one returns `none`.
-/

set_option autoImplicit false

namespace BlockMail.Number

/-- The significand and exponent pairs of the finite doubles. Every value above
the least normal one has a full 53-bit significand; smaller ones share the
least exponent. -/
def Canonical (significand : Nat) (exponent : Int) : Prop :=
  significand < Nat.pow 2 53 ∧ -1074 ≤ exponent ∧ exponent ≤ 971 ∧
    (Nat.pow 2 52 ≤ significand ∨ exponent = -1074)

instance (significand : Nat) (exponent : Int) :
    Decidable (Canonical significand exponent) :=
  inferInstanceAs (Decidable (_ ∧ _))

/-- A finite double, `± significand * 2 ^ exponent`. Zero keeps its sign. -/
structure Double where
  negative : Bool
  significand : Nat
  exponent : Int
  canonical : Canonical significand exponent
deriving DecidableEq

/-- The integer nearest to a quotient; a quotient halfway between two integers
goes to the even one. -/
def nearest (numerator denominator : Nat) : Nat :=
  let quotient := numerator / denominator
  let twice := 2 * (numerator % denominator)
  if twice < denominator then quotient
  else if twice = denominator ∧ quotient % 2 = 0 then quotient
  else quotient + 1

namespace Double

/-- Zero of the given sign. -/
def zero (negative : Bool) : Double :=
  ⟨negative, 0, -1074, by decide⟩

/-- The double with these parts, if they are canonical. -/
def ofParts? (negative : Bool) (significand : Nat) (exponent : Int) :
    Option Double :=
  if canonical : Canonical significand exponent then
    some ⟨negative, significand, exponent, canonical⟩
  else none

/-- The exponent at which a positive ratio has a significand of 53 bits, or the
least exponent when the ratio is too small for that. -/
def unitExponent (numerator denominator : Nat) : Int :=
  let estimate : Int := (numerator.log2 : Int) - (denominator.log2 : Int) - 53
  let fits := numerator * Nat.pow 2 (-estimate).toNat <
    denominator * Nat.pow 2 (estimate.toNat + 53)
  max (-1074) (if fits then estimate else estimate + 1)

/-- The double nearest to a ratio, or `none` past the largest finite one. -/
def ofRatio? (negative : Bool) (numerator denominator : Nat) : Option Double :=
  if numerator = 0 then some (zero negative)
  else
    let exponent := unitExponent numerator denominator
    let rounded := nearest (numerator * Nat.pow 2 (-exponent).toNat)
      (denominator * Nat.pow 2 exponent.toNat)
    if rounded = Nat.pow 2 53 then ofParts? negative (Nat.pow 2 52) (exponent + 1)
    else ofParts? negative rounded exponent

/-- The magnitude of a value is `numerator / denominator`. -/
def numerator (value : Double) : Nat :=
  value.significand * Nat.pow 2 value.exponent.toNat

/-- The magnitude of a value is `numerator / denominator`. -/
def denominator (value : Double) : Nat :=
  Nat.pow 2 (-value.exponent).toNat

/-- The rounded product, unless it overflows. -/
def mul? (left right : Double) : Option Double :=
  ofRatio? (left.negative != right.negative)
    (left.numerator * right.numerator) (left.denominator * right.denominator)

/-- The rounded quotient, unless it overflows. The divisor must not be zero. -/
def div? (left right : Double) : Option Double :=
  ofRatio? (left.negative != right.negative)
    (left.numerator * right.denominator) (left.denominator * right.numerator)

/-- The value with the opposite sign. -/
def neg (value : Double) : Double :=
  { value with negative := !value.negative }

/-- Whether the value is a zero of either sign. -/
def isZero (value : Double) : Bool :=
  value.significand == 0

/-- The double nearest to a power of ten. -/
def powerOfTen? (power : Nat) : Option Double :=
  ofRatio? false (Nat.pow 10 power) 1

end Double

end BlockMail.Number
