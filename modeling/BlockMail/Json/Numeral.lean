import BlockMail.Number.Basic

/-!
# Numerals

The grammar of a JSON number and the number that a numeral stands for. Digits
are gathered into a 64-bit significand; whole digits past its capacity only
raise the power of ten and fraction digits past it are dropped. The significand
is then scaled by powers of ten with one rounding a step, so a numeral with many
digits can miss the nearest double by a unit in the last place.
-/

set_option autoImplicit false

namespace BlockMail.Json

/-- Whether a character is one of the ten decimal digits. -/
def isDecimalDigit (char : Char) : Bool :=
  decide ('0' ≤ char) && decide (char ≤ '9')

def decimalDigitValue (char : Char) : Nat :=
  char.toNat - 48

structure Numeral where
  negative : Bool
  whole : List Char
  /-- Empty when there is no point. -/
  fraction : List Char
  /-- The digits of the exponent and whether its sign is a minus. -/
  exponent : Option (Bool × List Char)

namespace Numeral

/-- The fraction at the front of a text, if a point opens one. -/
def readFraction? : List Char → Option (List Char × List Char)
  | '.' :: rest =>
      let digits := rest.takeWhile isDecimalDigit
      if digits.isEmpty then none
      else some (digits, rest.dropWhile isDecimalDigit)
  | text => some ([], text)

/-- The exponent at the front of a text, if a letter opens one. -/
def readExponent? (text : List Char) :
    Option (Option (Bool × List Char) × List Char) :=
  match text with
  | letter :: rest =>
      if letter = 'e' ∨ letter = 'E' then
        let (negative, rest) :=
          match rest with
          | '+' :: rest => (false, rest)
          | '-' :: rest => (true, rest)
          | rest => (false, rest)
        let digits := rest.takeWhile isDecimalDigit
        if digits.isEmpty then none
        else some (some (negative, digits), rest.dropWhile isDecimalDigit)
      else some (none, text)
  | [] => some (none, [])

/-- The numeral at the front of a text and the text after it. A leading zero
stands alone. -/
def read? (text : List Char) : Option (Numeral × List Char) :=
  let (negative, text) :=
    match text with
    | '-' :: rest => (true, rest)
    | text => (false, text)
  let whole := text.takeWhile isDecimalDigit
  match whole with
  | [] => none
  | '0' :: _ :: _ => none
  | whole => do
      let (fraction, text) ← readFraction? (text.dropWhile isDecimalDigit)
      let (exponent, text) ← readExponent? text
      return (⟨negative, whole, fraction, exponent⟩, text)

/-- The largest significand. -/
def capacity : Nat := Nat.pow 2 64 - 1

/-- Appends digits to a significand until one no longer fits; returns the digits
that were left. -/
def absorb (significand : Nat) : List Char → Nat × List Char
  | [] => (significand, [])
  | digit :: rest =>
      let next := significand * 10 + decimalDigitValue digit
      if next ≤ capacity then absorb next rest else (significand, digit :: rest)

/-- The natural number that a run of digits denotes. -/
def naturalOf (digits : List Char) : Nat :=
  digits.foldl (fun value digit => value * 10 + decimalDigitValue digit) 0

/-- A double times a power of ten, or `none` when that overflows. Each step
rounds once; powers below `10 ^ -308` are reached in several steps. -/
def scale? (value : Number.Double) (power : Int) : Option Number.Double :=
  if power.natAbs ≤ 308 then do
    let factor ← Number.Double.powerOfTen? power.natAbs
    if 0 ≤ power then value.mul? factor else value.div? factor
  else if value.isZero then some value
  else if _positive : 0 ≤ power then none
  else do
    let factor ← Number.Double.powerOfTen? 308
    let smaller ← value.div? factor
    scale? smaller (power + 308)
termination_by power.natAbs
decreasing_by omega

/-- The signed double with this significand and power of ten. -/
def doubleOf? (negative : Bool) (significand : Nat) (power : Int) :
    Option Number := do
  let magnitude ← Number.Double.ofRatio? false significand 1
  let scaled ← scale? magnitude power
  return .double (if negative then scaled.neg else scaled)

/-- The number a numeral stands for, or `none` when it overflows a double. A
numeral without fraction and exponent is an integer where a 64-bit word holds
it; minus zero is a double. -/
def value? (numeral : Numeral) : Option Number :=
  let (significand, excess) := absorb 0 numeral.whole
  if numeral.fraction.isEmpty ∧ numeral.exponent.isNone ∧ excess.isEmpty then
    if numeral.negative = false then some (.ofInt significand)
    else if significand ≠ 0 ∧ significand ≤ Nat.pow 2 63 then
      some (.ofInt (-significand))
    else doubleOf? true significand 0
  else
    let (significand, dropped) := absorb significand numeral.fraction
    let absorbed := numeral.fraction.length - dropped.length
    let shift : Int :=
      match numeral.exponent with
      | none => 0
      | some (negative, digits) =>
          if negative then -(naturalOf digits : Int) else naturalOf digits
    doubleOf? numeral.negative significand
      ((excess.length : Int) - absorbed + shift)

end Numeral

end BlockMail.Json
