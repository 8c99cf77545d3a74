import BlockMail.Proofs.Json.NumeralText
import BlockMail.Proofs.Number.Rounding

/-!
# Numerals and their values

A numeral has a value unless it comes near to the largest double. The scaling of the
significand rounds twice on the way up, so a little room is left below the ceiling; on
the way down it cannot overflow.
-/

set_option autoImplicit false

namespace BlockMail.Json.Numeral

open Number Number.Double

/-! ## Scaling -/

theorem exists_scale?_of_neg (value : Double) {power : Int} (down : power < 0) :
    ∃ scaled, scale? value power = some scaled := by
  induction value, power using scale?.induct with
  | case1 value power near =>
      obtain ⟨factor, factored, large, _⟩ := exists_powerOfTen? near
      obtain ⟨scaled, divided⟩ := exists_div? value large
      refine ⟨scaled, ?_⟩
      rw [scale?, if_pos near, factored]
      simp only [Option.bind_eq_bind, Option.bind_some, if_neg (not_le.2 down), divided]
  | case2 value power far zero =>
      rw [scale?, if_neg far, if_pos zero]
      exact ⟨_, rfl⟩
  | case3 value power far nonzero up => omega
  | case4 value power far nonzero negative ih =>
      obtain ⟨factor, factored, large, _⟩ := exists_powerOfTen? (le_refl 308)
      obtain ⟨smaller, divided⟩ := exists_div? value large
      obtain ⟨scaled, found⟩ := ih smaller (by omega)
      refine ⟨scaled, ?_⟩
      rw [scale?, if_neg far, if_neg nonzero, dif_neg negative, factored]
      simp only [Option.bind_eq_bind, Option.bind_some, divided, found]

/-- Scaling a double from one on does not overflow if the exact product stays below the
ceiling by one part in `2 ^ 53`. -/
theorem exists_scale?_of_large {value : Double} (large : 1 ≤ value.size) (power : Nat)
    (small : value.size * (10 ^ power * (1 + 1 / 2 ^ 53)) < ceiling) :
    ∃ scaled, scale? value power = some scaled := by
  have power_small : power ≤ 308 := by
    rw [← ten_pow_lt_ceiling_iff]
    refine lt_of_le_of_lt ?_ small
    have ten : (0 : ℚ) < 10 ^ power := by positivity
    nlinarith
  obtain ⟨factor, factored, _, close⟩ := exists_powerOfTen? power_small
  have product : value.size * factor.size < ceiling :=
    (mul_le_mul_of_nonneg_left close value.size_nonneg).trans_lt small
  obtain ⟨scaled, multiplied⟩ := exists_mul? product
  refine ⟨scaled, ?_⟩
  rw [scale?, if_pos (by simpa using power_small), Int.natAbs_natCast, factored]
  simp only [Option.bind_eq_bind, Option.bind_some, Int.natCast_nonneg, if_true, multiplied]

theorem size_of_isZero {value : Double} (zero : value.isZero = true) : value.size = 0 := by
  have empty : value.significand = 0 := by simpa [isZero] using zero
  simp [size, empty]

theorem exists_scale?_of_isZero {value : Double} (zero : value.isZero = true) (power : Nat) :
    ∃ scaled, scale? value power = some scaled := by
  by_cases near : (power : Int).natAbs ≤ 308
  · obtain ⟨factor, factored, _⟩ := exists_powerOfTen? near
    have small : value.size * factor.size < ceiling := by
      rw [size_of_isZero zero, zero_mul]
      exact factor.size_nonneg.trans_lt factor.size_lt_ceiling
    obtain ⟨scaled, multiplied⟩ := exists_mul? small
    refine ⟨scaled, ?_⟩
    rw [scale?, if_pos near, factored]
    simp only [Option.bind_eq_bind, Option.bind_some, Int.natCast_nonneg, if_true, multiplied]
  · rw [scale?, if_neg near, if_pos zero]
    exact ⟨_, rfl⟩

/-- Up to here the two roundings of a significand and a power of ten leave room below
the ceiling. -/
def roof : ℚ := (2 ^ 53 - 7 / 2) * widestGap

theorem roof_lt_ceiling {ratio : ℚ} (small : ratio ≤ roof) :
    ratio * (1 + 1 / 2 ^ 53) * (1 + 1 / 2 ^ 53) < ceiling := by
  have gap := widestGap_pos
  unfold roof at small
  unfold ceiling
  calc
    ratio * (1 + 1 / 2 ^ 53) * (1 + 1 / 2 ^ 53)
        ≤ (2 ^ 53 - 7 / 2) * widestGap * (1 + 1 / 2 ^ 53) * (1 + 1 / 2 ^ 53) := by
      gcongr
    _ = (2 ^ 53 - 7 / 2) * (1 + 1 / 2 ^ 53) * (1 + 1 / 2 ^ 53) * widestGap := by ring
    _ < (2 ^ 53 - 1 / 2) * widestGap := mul_lt_mul_of_pos_right (by norm_num) gap

theorem capacity_lt_ceiling : (capacity : ℚ) < ceiling := by
  have power : (10 : ℚ) ^ 20 < ceiling := (ten_pow_lt_ceiling_iff 20).2 (by decide)
  have bits : capacity ≤ 10 ^ 20 := by decide
  have cast : (capacity : ℚ) ≤ 10 ^ 20 := by exact_mod_cast bits
  exact cast.trans_lt power

theorem exists_scale? {value : Double} {ratio : ℚ}
    (near : value.isZero = true ∨ 1 ≤ value.size ∧ value.size ≤ ratio * (1 + 1 / 2 ^ 53))
    {power : Int} (small : ratio * (10 : ℚ) ^ power ≤ roof) :
    ∃ scaled, scale? value power = some scaled := by
  rcases lt_or_ge power 0 with down | up
  · exact exists_scale?_of_neg value down
  · -- On the way up both the significand and the power of ten are rounded.
    obtain ⟨power, rfl⟩ := Int.eq_ofNat_of_zero_le up
    rcases near with zero | ⟨large, close⟩
    · exact exists_scale?_of_isZero zero power
    · apply exists_scale?_of_large large
      have room := roof_lt_ceiling small
      have ten : (0 : ℚ) ≤ 10 ^ power * (1 + 1 / 2 ^ 53) := by positivity
      calc
        value.size * (10 ^ power * (1 + 1 / 2 ^ 53))
            ≤ ratio * (1 + 1 / 2 ^ 53) * (10 ^ power * (1 + 1 / 2 ^ 53)) :=
          mul_le_mul_of_nonneg_right close ten
        _ = ratio * 10 ^ (power : ℤ) * (1 + 1 / 2 ^ 53) * (1 + 1 / 2 ^ 53) := by
          rw [zpow_natCast]
          ring
        _ < ceiling := room

/-- A significand of 64 bits times a power of ten has a double if the exact product
does not come too near to the ceiling. -/
theorem exists_doubleOf? (negative : Bool) {significand : Nat} (fits : significand ≤ capacity)
    {power : Int} (small : significand * (10 : ℚ) ^ power ≤ roof) :
    ∃ value, doubleOf? negative significand power = some (.double value) := by
  have magnitude : ∃ value, ofRatio? false significand 1 = some value ∧
      (value.isZero = true ∨
        1 ≤ value.size ∧ value.size ≤ (significand : ℚ) * (1 + 1 / 2 ^ 53)) := by
    rcases Nat.eq_zero_or_pos significand with rfl | positive
    · exact ⟨.zero false, rfl, .inl rfl⟩
    · have whole : (significand : ℚ) / (1 : ℕ) = significand := by simp
      have below : (significand : ℚ) ≤ capacity := by exact_mod_cast fits
      have found := exists_ofRatio?_normal false significand Nat.one_pos
        (by rw [whole]; exact below.trans_lt capacity_lt_ceiling)
        (by rw [whole]; exact_mod_cast positive)
      rw [whole] at found
      obtain ⟨value, found, bounds⟩ := found
      exact ⟨value, found, .inr bounds⟩
  obtain ⟨value, found, near⟩ := magnitude
  obtain ⟨scaled, scaledFrom⟩ := exists_scale? near small
  exact ⟨_, by simp only [doubleOf?, found, scaledFrom, Option.bind_eq_bind, Option.bind_some]; rfl⟩

/-! ## Significands -/

theorem isDecimalDigit_eq (char : Char) : isDecimalDigit char = char.isDigit := rfl

theorem decimalDigitValue_lt {char : Char} (digit : isDecimalDigit char = true) :
    decimalDigitValue char < 10 := by
  obtain ⟨_, most⟩ := Char.isDigit_iff_toNat.1 ((isDecimalDigit_eq char).symm.trans digit)
  have nine : '9'.toNat = 57 := rfl
  unfold decimalDigitValue
  omega

theorem naturalOf_eq (digits : List Char) : naturalOf digits = Nat.ofDigitChars 10 digits 0 := by
  simp only [naturalOf, Nat.ofDigitChars_eq_foldl, Nat.mul_comm]
  rfl

/-- Absorbed digits are appended to the significand, which keeps to its capacity. -/
theorem absorb_spec (significand : Nat) (digits : List Char) :
    ∃ taken, digits = taken ++ (absorb significand digits).2 ∧
      (absorb significand digits).1 = Nat.ofDigitChars 10 taken significand ∧
      (significand ≤ capacity → (absorb significand digits).1 ≤ capacity) := by
  induction digits generalizing significand with
  | nil => exact ⟨[], rfl, rfl, id⟩
  | cons digit rest ih =>
      unfold absorb
      dsimp only
      split
      · rename_i fits
        obtain ⟨taken, parts, value, bound⟩ := ih (significand * 10 + decimalDigitValue digit)
        refine ⟨digit :: taken, by rw [List.cons_append, ← parts], ?_, fun _ => bound fits⟩
        rw [value, Nat.ofDigitChars_cons, Nat.mul_comm 10]
        rfl
      · exact ⟨[], rfl, rfl, id⟩

theorem le_ofDigitChars (digits : List Char) (significand : Nat) :
    significand * 10 ^ digits.length ≤ Nat.ofDigitChars 10 digits significand := by
  rw [Nat.ofDigitChars_eq_ofDigitChars_zero, Nat.mul_comm]
  exact Nat.le_add_right _ _

theorem absorb_all {significand : Nat} {digits : List Char}
    (fits : Nat.ofDigitChars 10 digits significand ≤ capacity) :
    absorb significand digits = (Nat.ofDigitChars 10 digits significand, []) := by
  induction digits generalizing significand with
  | nil => rfl
  | cons digit rest ih =>
      -- More digits only make the significand larger, so the first of them fits too.
      have next : 10 * significand + (digit.toNat - '0'.toNat) =
          significand * 10 + decimalDigitValue digit := by
        rw [Nat.mul_comm]
        rfl
      rw [Nat.ofDigitChars_cons, next] at fits
      have grows := le_ofDigitChars rest (significand * 10 + decimalDigitValue digit)
      have power := Nat.one_le_pow rest.length 10 (by decide)
      have room : significand * 10 + decimalDigitValue digit ≤ capacity :=
        (Nat.le_mul_of_pos_right _ power).trans (grows.trans fits)
      unfold absorb
      dsimp only
      rw [if_pos room, ih fits, Nat.ofDigitChars_cons, next]

theorem ofDigitChars_lt {digits : List Char} (all : AllDigits digits) :
    Nat.ofDigitChars 10 digits 0 < 10 ^ digits.length := by
  induction digits using List.reverseRecOn with
  | nil => decide
  | append_singleton digits last ih =>
      have before := ih fun char member => all char (List.mem_append_left _ member)
      have digit := decimalDigitValue_lt (all last (by simp))
      unfold decimalDigitValue at digit
      have zero : '0'.toNat = 48 := rfl
      rw [Nat.ofDigitChars_append, Nat.ofDigitChars_cons, Nat.ofDigitChars_nil,
        List.length_append, List.length_singleton, Nat.pow_succ, zero]
      omega

/-! ## Values -/

/-- The power of ten that the exponent stands for. -/
def shift (numeral : Numeral) : Int :=
  match numeral.exponent with
  | none => 0
  | some (negative, digits) => if negative then -(naturalOf digits : Int) else naturalOf digits

/-- What a numeral stands for, without its sign. -/
def magnitude (numeral : Numeral) : ℚ :=
  Nat.ofDigitChars 10 (numeral.whole ++ numeral.fraction) 0 *
    10 ^ (numeral.shift - numeral.fraction.length)

theorem dropped_le (significand : Nat) (taken dropped : List Char) (power : Int) :
    (Nat.ofDigitChars 10 taken significand : ℚ) * 10 ^ (power - taken.length) ≤
      Nat.ofDigitChars 10 (taken ++ dropped) significand *
        10 ^ (power - (taken ++ dropped).length) := by
  have grows := le_ofDigitChars dropped (Nat.ofDigitChars 10 taken significand)
  rw [← Nat.ofDigitChars_append] at grows
  have cast : (Nat.ofDigitChars 10 taken significand : ℚ) * 10 ^ dropped.length ≤
      Nat.ofDigitChars 10 (taken ++ dropped) significand := by exact_mod_cast grows
  have parts : power - taken.length =
      (dropped.length : Int) + (power - (taken ++ dropped).length) := by
    rw [List.length_append]
    push_cast
    ring
  rw [parts, zpow_add₀ (by norm_num), zpow_natCast, ← mul_assoc]
  exact mul_le_mul_of_nonneg_right cast (zpow_nonneg (by norm_num) _)

/-- A numeral with a fraction or an exponent has a value if its whole digits fit and it
does not come near to the ceiling. -/
theorem exists_value? {numeral : Numeral}
    (whole : Nat.ofDigitChars 10 numeral.whole 0 ≤ capacity)
    (notInteger : numeral.fraction ≠ [] ∨ numeral.exponent ≠ none)
    (small : numeral.magnitude ≤ roof) : ∃ value, numeral.value? = some value := by
  obtain ⟨negative, digits, fraction, exponent⟩ := numeral
  obtain ⟨taken, parts, absorbed, bound⟩ :=
    absorb_spec (Nat.ofDigitChars 10 digits 0) fraction
  have notWord : ¬ (fraction.isEmpty ∧ exponent.isNone ∧ ([] : List Char).isEmpty) := by
    rintro ⟨noFraction, noExponent, _⟩
    rcases notInteger with given | given
    · exact given (List.isEmpty_iff.1 noFraction)
    · exact given (Option.isNone_iff_eq_none.1 noExponent)
  have length : fraction.length - (absorb (Nat.ofDigitChars 10 digits 0) fraction).2.length =
      taken.length := by
    have sum := congrArg List.length parts
    rw [List.length_append] at sum
    omega
  have near : (Nat.ofDigitChars 10 taken (Nat.ofDigitChars 10 digits 0) : ℚ) *
      10 ^ (shift ⟨negative, digits, fraction, exponent⟩ - taken.length) ≤ roof := by
    have less := dropped_le (Nat.ofDigitChars 10 digits 0) taken
      (absorb (Nat.ofDigitChars 10 digits 0) fraction).2
      (shift ⟨negative, digits, fraction, exponent⟩)
    rw [← parts] at less
    refine less.trans ?_
    rw [← Nat.ofDigitChars_append]
    exact small
  rw [← absorbed] at near
  obtain ⟨value, found⟩ := exists_doubleOf? negative (bound whole) near
  refine ⟨.double value, ?_⟩
  rw [← found]
  unfold value?
  dsimp only
  rw [absorb_all whole]
  dsimp only
  rw [if_neg notWord, length]
  congr 1
  simp only [List.length_nil, shift]
  cases exponent <;> push_cast <;> ring

end BlockMail.Json.Numeral
