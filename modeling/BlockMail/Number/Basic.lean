import BlockMail.Number.Shortest

/-!
# Numbers as templates carry them

A number is an integer that fits a signed or an unsigned 64-bit word, or a
finite double. The two kinds never mix: `1` and `1.0` are different numbers and
are written differently.
-/

set_option autoImplicit false

namespace BlockMail

/-- The integers that a signed or an unsigned word of 64 bits holds. -/
def Number.IsWord (value : Int) : Prop :=
  -0x8000000000000000 ≤ value ∧ value < 0x10000000000000000

instance (value : Int) : Decidable (Number.IsWord value) :=
  inferInstanceAs (Decidable (_ ∧ _))

/-- An integer of a word or a finite double. -/
inductive Number where
  | integer (value : Int) (word : Number.IsWord value)
  | double (value : Number.Double)
deriving DecidableEq

namespace Number

theorem isWord_emod (value : Int) : IsWord (value % 0x10000000000000000) := by
  unfold IsWord
  omega

/-- The number of an integer, which wraps around where no word holds it. -/
def ofInt (value : Int) : Number :=
  if word : IsWord value then .integer value word
  else .integer (value % 0x10000000000000000) (isWord_emod value)

theorem ofInt_of_word {value : Int} (word : IsWord value) :
    ofInt value = .integer value word := dif_pos word

/-- Zeros, as many as asked for. -/
def zeros (count : Nat) : String :=
  String.ofList (List.replicate count '0')

/-- Positional notation: a point inside, before or after the digits, and always
at least one digit on either side of it. -/
def positional (digits : List Char) (exponent : Int) : String :=
  let count : Int := digits.length
  let whole := count + exponent
  if 0 ≤ exponent then
    String.ofList digits ++ zeros exponent.toNat ++ ".0"
  else if 0 < whole then
    String.ofList (digits.take whole.toNat) ++ "." ++
      String.ofList (digits.drop whole.toNat)
  else
    "0." ++ zeros (-whole).toNat ++ String.ofList digits

/-- Scientific notation: one digit before the point, no point after a lone
digit, and a signed exponent. -/
def scientific (digits : List Char) (power : Int) : String :=
  let mantissa :=
    match digits with
    | [] => "0"
    | [digit] => String.ofList [digit]
    | digit :: rest => String.ofList (digit :: '.' :: rest)
  mantissa ++ "e" ++ (if power < 0 then "-" else "+") ++ toString power.natAbs

/-- The written form of a double: its fewest digits, positional when the first
digit stands for a power of ten from -5 to 15 and scientific otherwise. -/
def Double.text (value : Double) : String :=
  let sign := if value.negative then "-" else ""
  if value.isZero then sign ++ "0.0"
  else
    let decimal := value.shortest
    let digits := (toString decimal.digits).toList
    let power := decimal.exponent + digits.length - 1
    if -5 ≤ power ∧ power ≤ 15 then sign ++ positional digits decimal.exponent
    else sign ++ scientific digits power

/-- The written form of a number. -/
def text : Number → String
  | .integer value _ => toString value
  | .double value => value.text

end Number

end BlockMail
