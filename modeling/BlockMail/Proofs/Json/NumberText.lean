import BlockMail.Proofs.Json.NumeralValue
import BlockMail.Proofs.Number.Shortest

/-!
# Numbers written and read

The text of a number is the text of a numeral, and every number that a program can hold
is read back as some number: an integer as itself, a double as itself or a neighbour.
-/

set_option autoImplicit false

namespace BlockMail

open Json

/-! ## Digits -/

theorem allDigits_toDigits (number : Nat) : AllDigits (Nat.toDigits 10 number) :=
  fun _ member => Nat.isDigit_of_mem_toDigits (by decide) (by decide) member

theorem head_toDigits {number : Nat} (positive : 0 < number) :
    (Nat.toDigits 10 number).head? ≠ some '0' := by
  induction number using Nat.strongRecOn with
  | ind number ih =>
      rw [Nat.toDigits_eq_if (by decide)]
      split
      · rename_i small
        have each : ∀ digit < 10, 0 < digit → [Nat.digitChar digit].head? ≠ some '0' := by decide
        exact each number small positive
      · rename_i large
        have quotient : 0 < number / 10 := by omega
        rw [List.head?_append_of_ne_nil _ Nat.toDigits_ne_nil]
        exact ih (number / 10) (by omega) quotient

theorem Json.AllDigits.append {first second : List Char} (left : AllDigits first)
    (right : AllDigits second) : AllDigits (first ++ second) := by
  intro char member
  rcases List.mem_append.1 member with inFirst | inSecond
  · exact left char inFirst
  · exact right char inSecond

/-- Digits without a leading zero. -/
structure Leading (digits : List Char) : Prop where
  all : AllDigits digits
  head : ∃ first rest, digits = first :: rest ∧ first ≠ '0'

theorem leading_toDigits {number : Nat} (positive : 0 < number) :
    Leading (Nat.toDigits 10 number) := by
  refine ⟨allDigits_toDigits number, ?_⟩
  have head := head_toDigits positive
  cases digits : Nat.toDigits 10 number with
  | nil => exact absurd digits Nat.toDigits_ne_nil
  | cons first rest =>
      refine ⟨first, rest, rfl, ?_⟩
      rintro rfl
      rw [digits] at head
      exact head rfl

namespace Number

/-! ## Numerals of numbers -/

def positionalNumeral (negative : Bool) (digits : List Char) (exponent : Int) : Numeral :=
  let whole := (digits.length : Int) + exponent
  if 0 ≤ exponent then
    ⟨negative, digits ++ List.replicate exponent.toNat '0', ['0'], none⟩
  else if 0 < whole then
    ⟨negative, digits.take whole.toNat, digits.drop whole.toNat, none⟩
  else ⟨negative, ['0'], List.replicate (-whole).toNat '0' ++ digits, none⟩

def scientificNumeral (negative : Bool) (digits : List Char) (power : Int) : Numeral :=
  ⟨negative, digits.take 1, digits.drop 1,
    some (decide (power < 0), Nat.toDigits 10 power.natAbs)⟩

def Double.numeral (value : Double) : Numeral :=
  if value.isZero then ⟨value.negative, ['0'], ['0'], none⟩
  else
    let digits := Nat.toDigits 10 value.shortest.digits
    let power := value.shortest.exponent + digits.length - 1
    if -5 ≤ power ∧ power ≤ 15 then
      positionalNumeral value.negative digits value.shortest.exponent
    else scientificNumeral value.negative digits power

/-- The numeral that a number is written as. -/
def numeral : Number → Numeral
  | .integer value _ => ⟨decide (value < 0), Nat.toDigits 10 value.natAbs, [], none⟩
  | .double value => value.numeral

variable {digits : List Char}

theorem chars_of_fraction {negative : Bool} {whole fraction : List Char}
    (present : fraction ≠ []) :
    Numeral.chars ⟨negative, whole, fraction, none⟩ =
      (if negative then ['-'] else []) ++ (whole ++ '.' :: fraction) := by
  simp [Numeral.chars, Numeral.fractionChars, Numeral.exponentChars, present]

theorem chars_positionalNumeral (leading : Leading digits) (negative : Bool) (exponent : Int) :
    (positionalNumeral negative digits exponent).chars =
      (if negative then ['-'] else []) ++ (positional digits exponent).toList := by
  unfold positional positionalNumeral
  dsimp only
  by_cases up : 0 ≤ exponent
  · rw [if_pos up, if_pos up, chars_of_fraction (by simp)]
    simp [zeros]
  · rw [if_neg up, if_neg up]
    by_cases within : 0 < (digits.length : Int) + exponent
    · rw [if_pos within, if_pos within, chars_of_fraction]
      · simp
      · intro empty
        have beyond := List.drop_eq_nil_iff.1 empty
        omega
    · obtain ⟨_, first, rest, rfl, _⟩ := leading
      rw [if_neg within, if_neg within, chars_of_fraction (by simp)]
      simp [zeros]

theorem chars_scientificNumeral (leading : Leading digits) (negative : Bool) (power : Int) :
    (scientificNumeral negative digits power).chars =
      (if negative then ['-'] else []) ++ (scientific digits power).toList := by
  obtain ⟨_, first, rest, rfl, _⟩ := leading
  have whole : toString power.natAbs = String.ofList (Nat.toDigits 10 power.natAbs) :=
    Nat.toString_eq_ofList_toDigits
  by_cases down : power < 0
  · cases rest <;>
      simp [scientific, scientificNumeral, Numeral.chars, Numeral.fractionChars,
        Numeral.exponentChars, whole, down]
  · cases rest <;>
      simp [scientific, scientificNumeral, Numeral.chars, Numeral.fractionChars,
        Numeral.exponentChars, whole, down]

theorem leading_shortest {value : Double} (nonzero : 0 < value.significand) :
    Leading (Nat.toDigits 10 value.shortest.digits) :=
  leading_toDigits (Double.digits_shortest_pos nonzero)

theorem significand_pos {value : Double} (nonzero : ¬ value.isZero = true) :
    0 < value.significand := by
  have filled : value.significand ≠ 0 := by simpa [Double.isZero] using nonzero
  exact Nat.pos_of_ne_zero filled

theorem chars_numeral (number : Number) : number.numeral.chars = number.text.toList := by
  cases number with
  | integer value =>
      cases value with
      | ofNat value =>
          have written : (value : Int).repr = String.ofList (Nat.toDigits 10 value) :=
            Nat.toString_eq_ofList_toDigits
          have plain : ¬ (value : Int) < 0 := by omega
          simp [numeral, text, Numeral.chars, Numeral.fractionChars, Numeral.exponentChars, written,
            plain]
      | negSucc value =>
          have written : toString (Int.negSucc value) =
              "-" ++ String.ofList (Nat.toDigits 10 (value + 1)) :=
            congrArg ("-" ++ ·) Nat.toString_eq_ofList_toDigits
          simp [numeral, text, Numeral.chars, Numeral.fractionChars, Numeral.exponentChars, written]
  | double value =>
      have sign : (if value.negative then "-" else "").toList =
          if value.negative then ['-'] else [] := by
        cases value.negative <;> rfl
      have written : toString value.shortest.digits =
          String.ofList (Nat.toDigits 10 value.shortest.digits) :=
        Nat.toString_eq_ofList_toDigits
      simp only [numeral, text, Double.numeral, Double.text, written, String.toList_ofList]
      split
      · rw [chars_of_fraction (by simp), String.toList_append, sign]
        rfl
      · rename_i nonzero
        have leading := leading_shortest (significand_pos nonzero)
        split
        · rw [chars_positionalNumeral leading, String.toList_append, sign]
        · rw [chars_scientificNumeral leading, String.toList_append, sign]

/-! ## Lawful numerals -/

theorem lawful_of_leading {negative : Bool} {fraction : List Char}
    {exponent : Option (Bool × List Char)} (leading : Leading digits)
    (allFraction : AllDigits fraction)
    (allExponent : ∀ part ∈ exponent, AllDigits part.2 ∧ part.2 ≠ []) :
    Numeral.Lawful ⟨negative, digits, fraction, exponent⟩ := by
  obtain ⟨all, first, rest, rfl, notZero⟩ := leading
  refine ⟨all, by simp, ?_, allFraction, allExponent⟩
  intro zero
  exact absurd (Option.some.inj zero) notZero

theorem lawful_of_zero {negative : Bool} {fraction : List Char} (allFraction : AllDigits fraction) :
    Numeral.Lawful ⟨negative, ['0'], fraction, none⟩ :=
  ⟨by simp [AllDigits]; decide, by simp, fun _ => rfl, allFraction, nofun⟩

theorem allDigits_zeros (count : Nat) : AllDigits (List.replicate count '0') := by
  intro char member
  rw [List.eq_of_mem_replicate member]
  decide

theorem lawful_positionalNumeral (leading : Leading digits) (negative : Bool) (exponent : Int) :
    (positionalNumeral negative digits exponent).Lawful := by
  obtain ⟨all, first, rest, rfl, notZero⟩ := leading
  unfold positionalNumeral
  dsimp only
  split
  · refine lawful_of_leading ⟨all.append (allDigits_zeros _), first, _, rfl, notZero⟩ ?_ nofun
    exact allDigits_zeros 1
  · split
    · rename_i down within
      refine lawful_of_leading ⟨?_, first, ?_⟩ ?_ nofun
      · exact fun char member => all char (List.mem_of_mem_take member)
      · obtain ⟨count, same⟩ : ∃ count, ((first :: rest).length + exponent).toNat = count + 1 :=
          ⟨((first :: rest).length + exponent).toNat - 1, by omega⟩
        exact ⟨rest.take count, by rw [same, List.take_succ_cons], notZero⟩
      · exact fun char member => all char (List.mem_of_mem_drop member)
    · exact lawful_of_zero ((allDigits_zeros _).append all)

theorem lawful_scientificNumeral (leading : Leading digits) (negative : Bool) (power : Int) :
    (scientificNumeral negative digits power).Lawful := by
  obtain ⟨all, first, rest, rfl, notZero⟩ := leading
  refine lawful_of_leading ⟨?_, first, [], rfl, notZero⟩ ?_ ?_
  · exact fun char member => all char (List.mem_of_mem_take member)
  · exact fun char member => all char (List.mem_of_mem_drop member)
  · rintro _ ⟨⟩
    exact ⟨allDigits_toDigits _, Nat.toDigits_ne_nil⟩

theorem lawful_numeral (number : Number) : number.numeral.Lawful := by
  cases number with
  | integer value =>
      rcases Nat.eq_zero_or_pos value.natAbs with zero | positive
      · simp only [numeral, zero, Nat.toDigits_zero]
        exact lawful_of_zero (by simp [AllDigits])
      · exact lawful_of_leading (leading_toDigits positive) (by simp [AllDigits]) nofun
  | double value =>
      simp only [numeral, Double.numeral]
      split
      · exact lawful_of_zero (allDigits_zeros 1)
      · rename_i nonzero
        have leading := leading_shortest (significand_pos nonzero)
        split
        · exact lawful_positionalNumeral leading _ _
        · exact lawful_scientificNumeral leading _ _

/-! ## Values -/

theorem magnitude_positionalNumeral (digits : List Char) (negative : Bool) (exponent : Int) :
    (positionalNumeral negative digits exponent).magnitude =
      Nat.ofDigitChars 10 digits 0 * 10 ^ exponent := by
  have zero : Nat.ofDigitChars 10 ['0'] 0 = 0 := rfl
  unfold positionalNumeral Numeral.magnitude
  dsimp only
  split
  · rename_i up
    obtain ⟨power, rfl⟩ := Int.eq_ofNat_of_zero_le up
    have tenth : Nat.ofDigitChars 10 ['0'] = fun init => 10 * init := by
      funext init
      simp [Nat.ofDigitChars]
    rw [Nat.ofDigitChars_append, Nat.ofDigitChars_append, Int.toNat_natCast,
      Nat.ofDigitChars_replicate_zero, tenth]
    simp only [Numeral.shift, List.length_singleton]
    push_cast
    rw [zpow_natCast]
    ring
  · split
    · have length : ((digits.drop ((digits.length : Int) + exponent).toNat).length : Int) =
          -exponent := by
        rw [List.length_drop]
        omega
      simp only [Numeral.shift, List.take_append_drop, length, zero_sub, neg_neg]
    · have length : ((List.replicate (-((digits.length : Int) + exponent)).toNat '0' ++
          digits).length : Int) = -exponent := by
        rw [List.length_append, List.length_replicate]
        omega
      rw [Nat.ofDigitChars_append, Nat.ofDigitChars_append, Nat.ofDigitChars_replicate_zero, zero,
        Nat.mul_zero]
      simp only [Numeral.shift, length, zero_sub, neg_neg]

theorem magnitude_scientificNumeral (leading : Leading digits) (negative : Bool) (exponent : Int) :
    (scientificNumeral negative digits (exponent + digits.length - 1)).magnitude =
      Nat.ofDigitChars 10 digits 0 * 10 ^ exponent := by
  obtain ⟨_, first, rest, rfl, _⟩ := leading
  have power : Numeral.shift (scientificNumeral negative (first :: rest)
      (exponent + (first :: rest).length - 1)) = exponent + rest.length := by
    simp only [scientificNumeral, Numeral.shift, Numeral.naturalOf_eq,
      Nat.ofDigitChars_ten_toDigits, List.length_cons, decide_eq_true_eq]
    split <;> omega
  rw [Numeral.magnitude, power]
  simp [scientificNumeral]

/-- The numeral of a double other than zero stands for its shortest decimal. -/
theorem magnitude_numeral {value : Double} (nonzero : ¬ value.isZero = true) :
    value.numeral.magnitude = value.shortest.value := by
  have denotes : (Nat.ofDigitChars 10 (Nat.toDigits 10 value.shortest.digits) 0 : ℚ) =
      value.shortest.digits := by rw [Nat.ofDigitChars_ten_toDigits]
  unfold Double.numeral
  dsimp only
  rw [if_neg nonzero, Decimal.value, ← denotes]
  split
  · exact magnitude_positionalNumeral _ _ _
  · exact magnitude_scientificNumeral (leading_shortest (significand_pos nonzero)) _ _

theorem whole_numeral_le (value : Double) :
    Nat.ofDigitChars 10 value.numeral.whole 0 ≤ Numeral.capacity := by
  have short {digits : List Char} (all : AllDigits digits) (length : digits.length ≤ 19) :
      Nat.ofDigitChars 10 digits 0 ≤ Numeral.capacity := by
    have less := Numeral.ofDigitChars_lt all
    have power : 10 ^ digits.length ≤ 10 ^ 19 := Nat.pow_le_pow_right (by decide) length
    have bound : 10 ^ 19 ≤ Numeral.capacity := by decide
    omega
  refine short (lawful_numeral (.double value)).whole ?_
  unfold Double.numeral
  dsimp only
  split
  · simp
  · split
    · rename_i near
      unfold positionalNumeral
      dsimp only
      split
      · rw [List.length_append, List.length_replicate]
        omega
      · split
        · rw [List.length_take]
          omega
        · simp
    · simp [scientificNumeral]

/-- The shortest decimal of any double but the three largest leaves room for rounding. -/
theorem shortest_le_roof {value : Double} (nonzero : 0 < value.significand)
    (apart : value.exponent = 971 → value.significand + 4 ≤ 2 ^ 53) :
    value.shortest.value ≤ Numeral.roof := by
  refine (Double.near_shortest nonzero).high.trans ?_
  obtain ⟨negative, significand, exponent, fits, _, most, _⟩ := value
  have gap := Double.widestGap_pos
  unfold Numeral.roof
  dsimp only at *
  rcases eq_or_lt_of_le most with rfl | less
  · have room : (significand : ℚ) + 4 ≤ 2 ^ 53 := by exact_mod_cast apart rfl
    exact mul_le_mul_of_nonneg_right (by linarith) gap.le
  · have whole : (significand : ℚ) + 1 ≤ 2 ^ 53 := by exact_mod_cast Nat.succ_le_of_lt fits
    have half : (2 : ℚ) ^ exponent ≤ Double.widestGap / 2 := by
      calc
        (2 : ℚ) ^ exponent ≤ 2 ^ (970 : ℤ) := zpow_le_zpow_right₀ (by norm_num) (by omega)
        _ = Double.widestGap / 2 := by
          rw [Double.widestGap, show (971 : ℤ) = 970 + 1 from rfl, zpow_add₀ (by norm_num),
            zpow_one, mul_div_cancel_right₀ _ (by norm_num)]
    calc
      ((significand : ℚ) + 1 / 2) * 2 ^ exponent
          ≤ 2 ^ 53 * (Double.widestGap / 2) :=
        mul_le_mul (by linarith) half (zpow_nonneg (by norm_num) _) (by norm_num)
      _ ≤ (2 ^ 53 - 7 / 2) * Double.widestGap := by linarith

theorem exists_value?_top : ∀ negative, ∀ less < 3,
    ((Double.ofParts? negative (2 ^ 53 - 1 - less) 971).bind
      fun value => value.numeral.value?).isSome = true := by
  decide +kernel

theorem numeral_of_isZero {value : Double} (zero : value.isZero = true) :
    value.numeral = ⟨value.negative, ['0'], ['0'], none⟩ := if_pos zero

theorem numeral_notInteger (value : Double) :
    value.numeral.fraction ≠ [] ∨ value.numeral.exponent ≠ none := by
  unfold Double.numeral
  dsimp only
  split
  · simp
  · rename_i nonzero
    obtain ⟨_, first, rest, written, _⟩ := leading_shortest (significand_pos nonzero)
    split
    · left
      unfold positionalNumeral
      dsimp only
      split
      · simp
      · split
        · intro empty
          have beyond := List.drop_eq_nil_iff.1 empty
          omega
        · simp [written]
    · simp [scientificNumeral]

/-- The text of a double has a value, though not always the same one. -/
theorem exists_value?_double (value : Double) : ∃ number, value.numeral.value? = some number := by
  by_cases top : value.exponent = 971 ∧ 2 ^ 53 < value.significand + 4
  · -- The three largest doubles lie above the roof, so their texts are read one by one.
    obtain ⟨negative, significand, exponent, canonical⟩ := value
    obtain ⟨rfl, large⟩ := top
    have less : significand < 2 ^ 53 := canonical.1
    have read := exists_value?_top negative (2 ^ 53 - 1 - significand)
      (by dsimp only at large; omega)
    have same : 2 ^ 53 - 1 - (2 ^ 53 - 1 - significand) = significand := by omega
    rw [same, Double.ofParts?_eq_some canonical] at read
    exact Option.isSome_iff_exists.1 read
  · refine Numeral.exists_value? (whole_numeral_le value) (numeral_notInteger value) ?_
    by_cases zero : value.isZero = true
    · have nothing : Numeral.magnitude ⟨value.negative, ['0'], ['0'], none⟩ = 0 := by
        rw [Numeral.magnitude, show Nat.ofDigitChars 10 (['0'] ++ ['0']) 0 = 0 from rfl,
          Nat.cast_zero, zero_mul]
      rw [numeral_of_isZero zero, nothing]
      exact mul_nonneg (by norm_num) Double.widestGap_pos.le
    · rw [magnitude_numeral zero]
      exact shortest_le_roof (significand_pos zero) (by omega)

theorem value?_integer {value : Int} (word : IsWord value) :
    (numeral (.integer value word)).value? = some (.integer value word) := by
  have ⟨least, most⟩ := word
  have denotes : Nat.ofDigitChars 10 (Nat.toDigits 10 value.natAbs) 0 = value.natAbs :=
    Nat.ofDigitChars_ten_toDigits
  have room : value.natAbs ≤ Numeral.capacity := by
    unfold Numeral.capacity
    simp only [Nat.pow_eq]
    omega
  have absorbed : Numeral.absorb 0 (Nat.toDigits 10 value.natAbs) = (value.natAbs, []) := by
    rw [Numeral.absorb_all (by rw [denotes]; exact room), denotes]
  unfold Numeral.value? numeral
  dsimp only
  rw [absorbed]
  by_cases negative : value < 0
  · have signed : value.natAbs ≠ 0 ∧ value.natAbs ≤ Nat.pow 2 63 := by
      simp only [Nat.pow_eq]
      omega
    have opposite : -(value.natAbs : Int) = value := by omega
    simp only [negative, List.isEmpty_nil, Option.isNone_none, and_self, if_true, decide_true,
      Bool.true_eq_false, if_false, if_pos signed, opposite, ofInt_of_word word]
  · have same : (value.natAbs : Int) = value := by omega
    simp only [negative, List.isEmpty_nil, Option.isNone_none, and_self, if_true, decide_false,
      same, ofInt_of_word word]

/-! ## Numbers written and read -/

/-- What becomes of a number that is written and read again. An integer stays what it
is; a double may come back as a neighbour. -/
def reread (number : Number) : Number :=
  match Numeral.read? number.text.toList with
  | some (numeral, _) => numeral.value?.getD number
  | none => number

example : reread (.double ⟨false, 8112963841471788, -53, by decide⟩) =
    .double ⟨false, 8112963841471787, -53, by decide⟩ := by decide +kernel

theorem read?_text (number : Number) {rest : List Char} (after : Delimited rest) :
    Numeral.read? (number.text.toList ++ rest) = some (number.numeral, rest) := by
  rw [← chars_numeral]
  exact Numeral.read?_chars (lawful_numeral number) after

theorem delimited_nil : Delimited [] := nofun

theorem value?_numeral (number : Number) : number.numeral.value? = some number.reread := by
  have read := read?_text number delimited_nil
  rw [List.append_nil] at read
  obtain ⟨value, found⟩ : ∃ value, number.numeral.value? = some value := by
    cases number with
    | integer value word => exact ⟨_, value?_integer word⟩
    | double value => exact exists_value?_double value
  rw [reread, read]
  dsimp only
  rw [found, Option.getD_some]

theorem reread_integer {value : Int} (word : IsWord value) :
    reread (.integer value word) = .integer value word := by
  have found := value?_numeral (.integer value word)
  rw [value?_integer word] at found
  exact (Option.some.inj found).symm

end Number

end BlockMail
