import BlockMail.Number.Shortest
import BlockMail.Proofs.Number.Rounding

/-!
# The size of shortest decimals

The decimal that stands for a double is positive when the double is not zero, and it
exceeds the double by half a gap at most.
-/

set_option autoImplicit false

namespace BlockMail.Number

/-- What a decimal stands for. -/
def Decimal.value (decimal : Decimal) : ℚ := decimal.digits * 10 ^ decimal.exponent

theorem Decimal.value_stripZeros (decimal : Decimal) :
    decimal.stripZeros.value = decimal.value := by
  induction decimal using stripZeros.induct with
  | case1 decimal tens ih =>
      rw [stripZeros, dif_pos tens, ih, value, value, zpow_add₀ (by norm_num), zpow_one]
      have whole : decimal.digits = decimal.digits / 10 * 10 := by omega
      calc
        ((decimal.digits / 10 : ℕ) : ℚ) * (10 ^ decimal.exponent * 10)
            = ((decimal.digits / 10 * 10 : ℕ) : ℚ) * 10 ^ decimal.exponent := by
          push_cast
          ring
        _ = decimal.digits * 10 ^ decimal.exponent := by rw [← whole]
  | case2 decimal stops => rw [stripZeros, dif_neg stops]

theorem Decimal.digits_pos_iff (decimal : Decimal) : 0 < decimal.digits ↔ 0 < decimal.value := by
  have ten : (0 : ℚ) < 10 ^ decimal.exponent := zpow_pos (by norm_num) _
  rw [value, mul_pos_iff_of_pos_right ten, Nat.cast_pos]

namespace Double

variable {value : Double}

/-- A positive decimal that exceeds a double by half a gap at most. -/
structure Near (value : Double) (decimal : Decimal) : Prop where
  positive : 0 < decimal.value
  high : decimal.value ≤ (value.significand + 1 / 2) * 2 ^ value.exponent

/-- A multiple that is taken on a grid is not below the lower edge and not above the upper
one, all in the units of the grid. -/
theorem onGrid?_bounds {power : Int} {multiple : Nat}
    (found : value.onGrid? power = some multiple) :
    let point := multiple * (Nat.pow 10 power.toNat * Nat.pow 2 (2 - value.exponent).toNat)
    let unit := Nat.pow 2 (value.exponent - 2).toNat * Nat.pow 10 (-power).toNat
    (4 * value.significand - if value.narrowBelow then 1 else 2) * unit ≤ point ∧
      point ≤ (4 * value.significand + 2) * unit := by
  intro point unit
  unfold onGrid? at found
  dsimp only at found
  simp only [point]
  generalize Nat.pow 10 power.toNat * Nat.pow 2 (2 - value.exponent).toNat = step at *
  simp only [show Nat.pow 2 (value.exponent - 2).toNat * Nat.pow 10 (-power).toNat = unit from rfl]
    at found
  generalize (4 * value.significand - if value.narrowBelow then 1 else 2) * unit = low at *
  generalize (4 * value.significand + 2) * unit = high at *
  generalize 4 * value.significand * unit / step = lower at *
  have within {multiple : Nat} (inside : ((decide (low < multiple * step) ||
      (value.significand % 2 == 0 && low == multiple * step)) &&
      (decide (multiple * step < high) ||
        (value.significand % 2 == 0 && multiple * step == high))) = true) :
      low ≤ multiple * step ∧ multiple * step ≤ high := by
    simp only [Bool.and_eq_true, Bool.or_eq_true, decide_eq_true_eq, beq_iff_eq] at inside
    omega
  split at found
  · rename_i first second
    split at found
    · cases found
      exact within first
    · split at found
      · cases found
        exact within first
      · cases found
        exact within second
  · rename_i first second
    cases found
    exact within first
  · rename_i first second
    cases found
    exact within second
  · cases found

theorem near_of_onGrid? (nonzero : 0 < value.significand) {power : Int} {multiple : Nat}
    (found : value.onGrid? power = some multiple) : value.Near ⟨multiple, power⟩ := by
  obtain ⟨low, high⟩ := onGrid?_bounds found
  have tens : 0 < Nat.pow 10 power.toNat := Nat.pow_pos (by decide)
  have tensBelow : (0 : ℚ) < (Nat.pow 10 (-power).toNat : ℕ) := by
    exact_mod_cast Nat.pow_pos (by decide)
  have twosBelow : (0 : ℚ) < (Nat.pow 2 (2 - value.exponent).toNat : ℕ) := by
    exact_mod_cast Nat.pow_pos (by decide)
  refine ⟨?_, ?_⟩
  · -- The lower edge lies above zero, for it is half a gap below the double at most.
    rw [← Decimal.digits_pos_iff]
    refine Nat.pos_of_ne_zero ?_
    rintro (rfl : multiple = 0)
    rw [Nat.zero_mul, Nat.le_zero, Nat.mul_eq_zero, Nat.mul_eq_zero] at low
    have two := Nat.pow_pos (n := (value.exponent - 2).toNat) (by decide : 0 < 2)
    have ten := Nat.pow_pos (n := (-power).toNat) (by decide : 0 < 10)
    simp only [Nat.pow_eq] at low
    split at low <;> omega
  · have quarters : ((value.significand : ℚ) + 1 / 2) * 2 ^ value.exponent =
        (4 * value.significand + 2) * 2 ^ (value.exponent - 2) := by
      rw [zpow_sub₀ (by norm_num)]
      ring
    have opposite : -(value.exponent - 2) = 2 - value.exponent := by omega
    rw [quarters, Decimal.value, ten_zpow_eq, two_zpow_eq, opposite, ← mul_div_assoc,
      ← mul_div_assoc, div_le_div_iff₀ tensBelow twosBelow]
    have whole : multiple * Nat.pow 10 power.toNat * Nat.pow 2 (2 - value.exponent).toNat ≤
        (4 * value.significand + 2) * Nat.pow 2 (value.exponent - 2).toNat *
          Nat.pow 10 (-power).toNat := by
      rw [Nat.mul_assoc, Nat.mul_assoc]
      exact high
    exact_mod_cast whole

theorem value_exactDecimal (value : Double) : value.exactDecimal.value = value.size := by
  unfold Decimal.value exactDecimal size numerator
  rcases le_total 0 value.exponent with up | down
  · obtain ⟨power, same⟩ := Int.eq_ofNat_of_zero_le up
    simp [same]
  · obtain ⟨power, opposite⟩ := Int.eq_ofNat_of_zero_le (Int.neg_nonneg.2 down)
    have same : value.exponent = -(power : Int) := by omega
    have ten : (10 : ℚ) ^ power = 5 ^ power * 2 ^ power := by
      rw [← mul_pow]
      norm_num
    simp only [same, Nat.pow_eq, Int.neg_neg, Int.toNat_natCast, Int.toNat_neg_natCast, pow_zero,
      mul_one, Nat.cast_mul, Nat.cast_pow, Nat.cast_ofNat]
    rw [min_eq_left (by omega), zpow_neg, zpow_neg, zpow_natCast, zpow_natCast, ten]
    field_simp

theorem size_pos (nonzero : 0 < value.significand) : 0 < value.size :=
  mul_pos (by exact_mod_cast nonzero) (zpow_pos (by norm_num) _)

theorem near_exactDecimal (nonzero : 0 < value.significand) : value.Near value.exactDecimal := by
  have gap : (0 : ℚ) < 2 ^ value.exponent := zpow_pos (by norm_num) _
  refine ⟨?_, ?_⟩
  · rw [value_exactDecimal]
    exact size_pos nonzero
  · rw [value_exactDecimal, size, add_mul]
    linarith

theorem near_shortest (nonzero : 0 < value.significand) : value.Near value.shortest := by
  have found : value.Near
      (((List.range 17).findSome? fun (count : Nat) =>
        let power := value.magnitude - ((count + 1 : Nat) : Int)
        (value.onGrid? power).map fun multiple => (⟨multiple, power⟩ : Decimal)).getD
          value.exactDecimal) := by
    cases search : (List.range 17).findSome? fun (count : Nat) =>
        let power := value.magnitude - ((count + 1 : Nat) : Int)
        (value.onGrid? power).map fun multiple => (⟨multiple, power⟩ : Decimal) with
    | none => exact near_exactDecimal nonzero
    | some decimal =>
        obtain ⟨count, _, taken⟩ := List.exists_of_findSome?_eq_some search
        obtain ⟨multiple, onGrid, rfl⟩ := Option.map_eq_some_iff.1 taken
        exact near_of_onGrid? nonzero onGrid
  unfold shortest
  exact ⟨by rw [Decimal.value_stripZeros]; exact found.positive,
    by rw [Decimal.value_stripZeros]; exact found.high⟩

theorem digits_shortest_pos (nonzero : 0 < value.significand) : 0 < value.shortest.digits :=
  (Decimal.digits_pos_iff _).2 (near_shortest nonzero).positive

end Double
end BlockMail.Number
