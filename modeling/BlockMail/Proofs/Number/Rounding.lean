import Mathlib.Algebra.Order.Field.Power
import Mathlib.Tactic.FieldSimp
import Mathlib.Tactic.Positivity
import Mathlib.Tactic.Linarith
import Mathlib.Tactic.Ring
import Mathlib.Tactic.NormNum
import BlockMail.Number.Double

/-!
# Rounding to doubles

How far the rounding of a ratio moves it, and that no rounding overflows below the
ceiling, half a gap above the largest double.
-/

set_option autoImplicit false

namespace BlockMail.Number

/-! ## Powers -/

theorem zpow_eq_div (base : Nat) (exponent : Int) :
    (base : ℚ) ^ exponent =
      (Nat.pow base exponent.toNat : ℕ) / (Nat.pow base (-exponent).toNat : ℕ) := by
  rcases le_total 0 exponent with up | down
  · obtain ⟨power, rfl⟩ := Int.eq_ofNat_of_zero_le up
    simp
  · obtain ⟨power, opposite⟩ := Int.eq_ofNat_of_zero_le (Int.neg_nonneg.2 down)
    obtain rfl : exponent = -(power : Int) := by omega
    simp

theorem two_zpow_eq (exponent : Int) :
    (2 : ℚ) ^ exponent = (Nat.pow 2 exponent.toNat : ℕ) / (Nat.pow 2 (-exponent).toNat : ℕ) := by
  exact_mod_cast zpow_eq_div 2 exponent

theorem ten_zpow_eq (exponent : Int) :
    (10 : ℚ) ^ exponent =
      (Nat.pow 10 exponent.toNat : ℕ) / (Nat.pow 10 (-exponent).toNat : ℕ) := by
  exact_mod_cast zpow_eq_div 10 exponent

/-! ## The nearest integer -/

theorem div_le_nearest (numerator denominator : Nat) :
    numerator / denominator ≤ nearest numerator denominator := by
  unfold nearest
  dsimp only
  split
  · exact le_rfl
  · split
    · exact le_rfl
    · exact Nat.le_succ _

theorem nearest_mul_le (numerator : Nat) {denominator : Nat} (positive : 0 < denominator) :
    2 * (nearest numerator denominator * denominator) ≤ 2 * numerator + denominator := by
  have parts := Nat.div_add_mod numerator denominator
  have left := Nat.mod_lt numerator positive
  unfold nearest
  dsimp only
  generalize numerator / denominator = quotient at *
  generalize numerator % denominator = rest at *
  rw [Nat.mul_comm] at parts
  split
  · omega
  · split
    · omega
    · rw [Nat.add_mul, Nat.one_mul]
      omega

namespace Double

/-- The magnitude of a value. -/
def size (value : Double) : ℚ := value.significand * 2 ^ value.exponent

theorem size_eq (value : Double) : value.size = value.numerator / value.denominator := by
  unfold size numerator denominator
  rw [two_zpow_eq]
  push_cast
  ring

theorem denominator_pos (value : Double) : 0 < value.denominator :=
  Nat.pow_pos (by decide)

/-- The distance between the largest doubles. -/
def widestGap : ℚ := 2 ^ (971 : ℤ)

theorem widestGap_pos : 0 < widestGap := zpow_pos (by norm_num) _

/-- From here on a magnitude is rounded past the largest finite double. -/
def ceiling : ℚ := (2 ^ 53 - 1 / 2) * widestGap

theorem size_lt_ceiling (value : Double) : value.size < ceiling := by
  obtain ⟨negative, significand, exponent, fits, _, most, _⟩ := value
  have whole : (significand : ℚ) + 1 ≤ 2 ^ 53 := by exact_mod_cast Nat.succ_le_of_lt fits
  have scaled : (2 : ℚ) ^ exponent ≤ widestGap := zpow_le_zpow_right₀ (by norm_num) most
  calc
    (significand : ℚ) * 2 ^ exponent ≤ significand * widestGap :=
      mul_le_mul_of_nonneg_left scaled (Nat.cast_nonneg _)
    _ < ceiling := mul_lt_mul_of_pos_right (by linarith) widestGap_pos

/-! ## The unit in the last place -/

variable {numerator denominator : Nat}

theorem zpow_log2_le (positive : 0 < numerator) :
    (2 : ℚ) ^ (numerator.log2 : ℤ) ≤ numerator := by
  rw [zpow_natCast]
  exact_mod_cast Nat.log2_self_le positive.ne'

theorem lt_zpow_log2 (numerator : Nat) : (numerator : ℚ) < 2 ^ ((numerator.log2 : ℤ) + 1) := by
  rw [← Nat.cast_succ, zpow_natCast]
  exact_mod_cast Nat.lt_log2_self

/-- The test of the estimate compares the ratio with `2 ^ 53` units. -/
theorem estimate_iff (proper : 0 < denominator) (estimate : Int) :
    numerator * Nat.pow 2 (-estimate).toNat < denominator * Nat.pow 2 (estimate.toNat + 53) ↔
      (numerator : ℚ) / denominator < 2 ^ 53 * 2 ^ estimate := by
  have below : (0 : ℚ) < denominator := by exact_mod_cast proper
  have scale : (0 : ℚ) < (Nat.pow 2 (-estimate).toNat : ℕ) := by
    exact_mod_cast Nat.pow_pos (by decide)
  rw [two_zpow_eq, ← Nat.cast_lt (α := ℚ), div_lt_iff₀ below, ← mul_div_assoc, div_mul_eq_mul_div,
    lt_div_iff₀ scale]
  simp only [Nat.pow_eq, pow_add]
  push_cast
  ring_nf

/-- A ratio of numbers of `left` and `right` binary digits has about `left - right`. -/
theorem ratio_bounds (positive : 0 < numerator) (proper : 0 < denominator) {estimate : Int}
    (digits : estimate = (numerator.log2 : Int) - (denominator.log2 : Int) - 53) :
    (2 : ℚ) ^ 52 * 2 ^ estimate ≤ numerator / denominator ∧
      (numerator : ℚ) / denominator < 2 ^ 53 * 2 ^ (estimate + 1) := by
  have below : (0 : ℚ) < denominator := by exact_mod_cast proper
  have two : (2 : ℚ) ≠ 0 := by norm_num
  constructor
  · rw [le_div_iff₀ below]
    calc
      (2 : ℚ) ^ 52 * 2 ^ estimate * denominator
          ≤ 2 ^ 52 * 2 ^ estimate * 2 ^ ((denominator.log2 : ℤ) + 1) :=
        mul_le_mul_of_nonneg_left (lt_zpow_log2 denominator).le (by positivity)
      _ = 2 ^ (numerator.log2 : ℤ) := by
        rw [← zpow_natCast, ← zpow_add₀ two, ← zpow_add₀ two, digits]
        congr 1
        push_cast
        ring
      _ ≤ numerator := zpow_log2_le positive
  · rw [div_lt_iff₀ below]
    calc
      (numerator : ℚ) < 2 ^ ((numerator.log2 : ℤ) + 1) := lt_zpow_log2 numerator
      _ = 2 ^ 53 * 2 ^ (estimate + 1) * 2 ^ (denominator.log2 : ℤ) := by
        rw [← zpow_natCast, ← zpow_add₀ two, ← zpow_add₀ two, digits]
        congr 1
        push_cast
        ring
      _ ≤ 2 ^ 53 * 2 ^ (estimate + 1) * denominator :=
        mul_le_mul_of_nonneg_left (zpow_log2_le proper) (by positivity)

/-- The exponent at which a ratio has a significand of 53 bits. -/
theorem exists_unit (positive : 0 < numerator) (proper : 0 < denominator) :
    ∃ exact : Int, unitExponent numerator denominator = max (-1074) exact ∧
      (numerator : ℚ) / denominator < 2 ^ 53 * 2 ^ exact ∧
      2 ^ 52 * 2 ^ exact ≤ (numerator : ℚ) / denominator := by
  obtain ⟨low, high⟩ := ratio_bounds positive proper rfl
  unfold unitExponent
  dsimp only
  generalize (numerator.log2 : Int) - (denominator.log2 : Int) - 53 = estimate at *
  by_cases fits : (numerator : ℚ) / denominator < 2 ^ 53 * 2 ^ estimate
  · rw [if_pos ((estimate_iff proper estimate).2 fits)]
    exact ⟨estimate, rfl, fits, low⟩
  · rw [if_neg (mt (estimate_iff proper estimate).1 fits)]
    refine ⟨estimate + 1, rfl, high, ?_⟩
    calc
      (2 : ℚ) ^ 52 * 2 ^ (estimate + 1) = 2 ^ 53 * 2 ^ estimate := by
        rw [zpow_add₀ (by norm_num), zpow_one]
        ring
      _ ≤ (numerator : ℚ) / denominator := not_lt.1 fits

/-- A ratio is less than `2 ^ 53` units, and at least `2 ^ 52` of them unless the unit is
the least of all. -/
theorem unitExponent_spec (positive : 0 < numerator) (proper : 0 < denominator) :
    let unit := unitExponent numerator denominator
    (numerator : ℚ) / denominator < 2 ^ 53 * 2 ^ unit ∧
      (unit = -1074 ∨ -1074 < unit ∧ 2 ^ 52 * 2 ^ unit ≤ (numerator : ℚ) / denominator) := by
  intro unit
  obtain ⟨exact, same, under, filled⟩ := exists_unit positive proper
  change unit = _ at same
  rcases le_or_gt exact (-1074) with least | normal
  · rw [max_eq_left least] at same
    refine ⟨under.trans_le ?_, .inl same⟩
    rw [same]
    exact mul_le_mul_of_nonneg_left (zpow_le_zpow_right₀ (by norm_num) least) (by norm_num)
  · rw [max_eq_right normal.le] at same
    rw [same]
    exact ⟨under, .inr ⟨normal, filled⟩⟩

/-! ## Rounding -/

/-- A ratio in units of a power of two, rounded to a whole number of them. -/
def rounded (numerator denominator : Nat) (unit : Int) : Nat :=
  nearest (numerator * Nat.pow 2 (-unit).toNat) (denominator * Nat.pow 2 unit.toNat)

theorem scaled_ratio (numerator denominator : Nat) (unit : Int) :
    ((numerator * Nat.pow 2 (-unit).toNat : ℕ) : ℚ) / (denominator * Nat.pow 2 unit.toNat : ℕ) =
      numerator / denominator / 2 ^ unit := by
  rw [two_zpow_eq]
  push_cast
  rw [div_div_div_eq, mul_comm (denominator : ℚ)]

theorem rounded_le (numerator : Nat) (proper : 0 < denominator) (unit : Int) :
    rounded numerator denominator unit * 2 ^ unit ≤ (numerator : ℚ) / denominator + 2 ^ unit / 2 := by
  have scale : (0 : ℚ) < 2 ^ unit := zpow_pos (by norm_num) _
  have bottom : 0 < denominator * Nat.pow 2 unit.toNat :=
    Nat.mul_pos proper (Nat.pow_pos (by decide))
  have near := nearest_mul_le (numerator * Nat.pow 2 (-unit).toNat) bottom
  have below : (0 : ℚ) < (denominator * Nat.pow 2 unit.toNat : ℕ) := by exact_mod_cast bottom
  have ratio := scaled_ratio numerator denominator unit
  rw [div_eq_iff below.ne'] at ratio
  have cast : 2 * ((rounded numerator denominator unit : ℚ) *
        (denominator * Nat.pow 2 unit.toNat : ℕ)) ≤
      2 * (numerator * Nat.pow 2 (-unit).toNat : ℕ) +
        (denominator * Nat.pow 2 unit.toNat : ℕ) := by
    exact_mod_cast near
  rw [ratio] at cast
  have units : (rounded numerator denominator unit : ℚ) ≤
      (numerator : ℚ) / denominator / 2 ^ unit + 1 / 2 := by
    by_contra large
    have more := mul_lt_mul_of_pos_right (not_le.1 large) below
    linarith
  calc
    (rounded numerator denominator unit : ℚ) * 2 ^ unit
        ≤ ((numerator : ℚ) / denominator / 2 ^ unit + 1 / 2) * 2 ^ unit :=
      mul_le_mul_of_nonneg_right units scale.le
    _ = (numerator : ℚ) / denominator + 2 ^ unit / 2 := by
      field_simp

theorem le_rounded (proper : 0 < denominator) (numerator : Nat) (unit : Int) (whole : Nat)
    (least : whole * 2 ^ unit ≤ (numerator : ℚ) / denominator) :
    whole ≤ rounded numerator denominator unit := by
  have scale : (0 : ℚ) < 2 ^ unit := zpow_pos (by norm_num) _
  have bottom : 0 < denominator * Nat.pow 2 unit.toNat :=
    Nat.mul_pos proper (Nat.pow_pos (by decide))
  have below : (0 : ℚ) < (denominator * Nat.pow 2 unit.toNat : ℕ) := by exact_mod_cast bottom
  refine le_trans ?_ (div_le_nearest _ _)
  rw [Nat.le_div_iff_mul_le bottom]
  rw [← le_div_iff₀ scale, ← scaled_ratio, le_div_iff₀ below] at least
  exact_mod_cast least

theorem widestGap_lt {unit : Int} (wide : 971 < unit) : 2 * widestGap ≤ 2 ^ unit := by
  calc
    2 * widestGap = 2 ^ (972 : ℤ) := by
      rw [widestGap, show (972 : ℤ) = 1 + 971 from rfl, zpow_add₀ (by norm_num), zpow_one]
    _ ≤ 2 ^ unit := zpow_le_zpow_right₀ (by norm_num) (by omega)

/-- Below the ceiling the unit is at most the widest gap, and less when the ratio is
rounded up to `2 ^ 53` units. -/
theorem unit_le {ratio : ℚ} {unit : Int} {units : Nat} (small : ratio < ceiling)
    (normal : unit = -1074 ∨ -1074 < unit ∧ 2 ^ 52 * 2 ^ unit ≤ ratio)
    (above : units * 2 ^ unit ≤ ratio + 2 ^ unit / 2) :
    unit ≤ 971 ∧ (units = 2 ^ 53 → unit ≤ 970) := by
  have gap := widestGap_pos
  have most : unit ≤ 971 := by
    by_contra wide
    rcases normal with least | ⟨_, low⟩
    · omega
    · have double := widestGap_lt (not_le.1 wide)
      unfold ceiling at small
      linarith
  refine ⟨most, ?_⟩
  rintro rfl
  by_contra wide
  have widest : unit = 971 := by omega
  subst widest
  change _ * widestGap ≤ ratio + widestGap / 2 at above
  unfold ceiling at small
  push_cast at above
  linarith

theorem ofParts?_eq_some {significand : Nat} {exponent : Int}
    (canonical : Canonical significand exponent) (negative : Bool) :
    ofParts? negative significand exponent = some ⟨negative, significand, exponent, canonical⟩ :=
  dif_pos canonical

/-- A ratio below the ceiling is rounded to the double with so many units. -/
theorem exists_ofRatio? (negative : Bool) (positive : 0 < numerator) (proper : 0 < denominator)
    (small : (numerator : ℚ) / denominator < ceiling) :
    ∃ value, ofRatio? negative numerator denominator = some value ∧
      value.size = rounded numerator denominator (unitExponent numerator denominator) *
        2 ^ unitExponent numerator denominator := by
  obtain ⟨high, normal⟩ := unitExponent_spec positive proper
  have above := rounded_le numerator proper (unitExponent numerator denominator)
  have floor (whole : ℕ) := le_rounded proper numerator (unitExponent numerator denominator) whole
  unfold ofRatio?
  rw [if_neg positive.ne']
  simp only [show nearest (numerator * Nat.pow 2 (-unitExponent numerator denominator).toNat)
    (denominator * Nat.pow 2 (unitExponent numerator denominator).toNat) =
      rounded numerator denominator (unitExponent numerator denominator) from rfl]
  generalize unitExponent numerator denominator = unit at *
  generalize rounded numerator denominator unit = units at *
  have scale : (0 : ℚ) < 2 ^ unit := zpow_pos (by norm_num) _
  obtain ⟨most, less⟩ := unit_le small normal above
  have least : -1074 ≤ unit := by omega
  have atMost : units ≤ 2 ^ 53 := by
    by_contra large
    have more : (2 : ℚ) ^ 53 + 1 ≤ units := by exact_mod_cast not_le.1 large
    have product := mul_le_mul_of_nonneg_right more scale.le
    linarith
  split
  · -- The ratio was rounded up to `2 ^ 53` units, which are `2 ^ 52` of twice the unit.
    rename_i full
    have canonical : Canonical (Nat.pow 2 52) (unit + 1) :=
      ⟨by decide, by omega, by have := less full; omega, .inl le_rfl⟩
    refine ⟨_, ofParts?_eq_some canonical negative, ?_⟩
    rw [full, size, zpow_add₀ (by norm_num), zpow_one]
    norm_num
    ring
  · rename_i notFull
    have canonical : Canonical units unit := by
      refine ⟨lt_of_le_of_ne atMost notFull, least, most, ?_⟩
      rcases normal with same | ⟨_, low⟩
      · exact .inr same
      · exact .inl (floor (2 ^ 52) (by exact_mod_cast low))
    exact ⟨_, ofParts?_eq_some canonical negative, rfl⟩

theorem exists_ofRatio?_nonneg (negative : Bool) (proper : 0 < denominator)
    (small : (numerator : ℚ) / denominator < ceiling) :
    ∃ value, ofRatio? negative numerator denominator = some value := by
  rcases Nat.eq_zero_or_pos numerator with rfl | positive
  · exact ⟨_, rfl⟩
  · obtain ⟨value, found, _⟩ := exists_ofRatio? negative positive proper small
    exact ⟨value, found⟩

/-- A ratio from one on is rounded to a double from one on, which exceeds it by one
part in `2 ^ 53` at most. -/
theorem exists_ofRatio?_normal (negative : Bool) (numerator : Nat) (proper : 0 < denominator)
    (small : (numerator : ℚ) / denominator < ceiling)
    (large : 1 ≤ (numerator : ℚ) / denominator) :
    ∃ value, ofRatio? negative numerator denominator = some value ∧ 1 ≤ value.size ∧
      value.size ≤ numerator / denominator * (1 + 1 / 2 ^ 53) := by
  have positive : 0 < numerator := by
    rcases Nat.eq_zero_or_pos numerator with rfl | positive
    · norm_num at large
    · exact positive
  obtain ⟨value, found, size⟩ := exists_ofRatio? negative positive proper small
  obtain ⟨high, normal⟩ := unitExponent_spec positive proper
  have above := rounded_le numerator proper (unitExponent numerator denominator)
  have floor := le_rounded proper numerator (unitExponent numerator denominator) (2 ^ 52)
  generalize unitExponent numerator denominator = unit at *
  generalize rounded numerator denominator unit = units at *
  have fine : -52 ≤ unit := by
    -- With a finer unit, `2 ^ 53` units would not reach up to one.
    by_contra finer
    have : (2 : ℚ) ^ unit ≤ 2 ^ (-53 : ℤ) := zpow_le_zpow_right₀ (by norm_num) (by omega)
    norm_num at this
    linarith
  have low : (2 : ℚ) ^ 52 * 2 ^ unit ≤ numerator / denominator := by
    rcases normal with least | ⟨_, low⟩
    · omega
    · exact low
  refine ⟨value, found, ?_, ?_⟩
  · have many : (2 : ℚ) ^ 52 ≤ units := by exact_mod_cast floor (by exact_mod_cast low)
    have scale : (2 : ℚ) ^ (-52 : ℤ) ≤ 2 ^ unit := zpow_le_zpow_right₀ (by norm_num) fine
    rw [size]
    calc
      (1 : ℚ) = 2 ^ 52 * 2 ^ (-52 : ℤ) := by norm_num
      _ ≤ units * 2 ^ unit := mul_le_mul many scale (by positivity) (by positivity)
  · rw [size]
    linarith

/-! ## Arithmetic -/

theorem size_nonneg (value : Double) : 0 ≤ value.size := by
  unfold size
  positivity

theorem size_mul (left right : Double) :
    ((left.numerator * right.numerator : ℕ) : ℚ) / (left.denominator * right.denominator : ℕ) =
      left.size * right.size := by
  rw [size_eq, size_eq, div_mul_div_comm]
  push_cast
  rfl

theorem size_div (left right : Double) :
    ((left.numerator * right.denominator : ℕ) : ℚ) / (left.denominator * right.numerator : ℕ) =
      left.size / right.size := by
  rw [size_eq, size_eq, div_div_div_eq]
  push_cast
  rfl

theorem exists_mul? {left right : Double} (small : left.size * right.size < ceiling) :
    ∃ value, left.mul? right = some value :=
  exists_ofRatio?_nonneg _ (Nat.mul_pos left.denominator_pos right.denominator_pos)
    (by rw [size_mul]; exact small)

/-- Dividing by a double from one on does not overflow. -/
theorem exists_div? (left : Double) {right : Double} (large : 1 ≤ right.size) :
    ∃ value, left.div? right = some value := by
  have divisor : 0 < right.numerator := by
    rcases Nat.eq_zero_or_pos right.numerator with zero | positive
    · rw [size_eq, zero] at large
      norm_num at large
    · exact positive
  refine exists_ofRatio?_nonneg _ (Nat.mul_pos left.denominator_pos divisor) ?_
  rw [size_div]
  exact (div_le_self left.size_nonneg large).trans_lt left.size_lt_ceiling

/-! ## Powers of ten -/

theorem widestGap_eq : widestGap = ((2 ^ 971 : ℕ) : ℚ) := by
  rw [widestGap, Nat.cast_pow, Nat.cast_ofNat, ← zpow_natCast]
  rfl

theorem ceiling_bounds : ∃ limit : ℕ, (limit : ℚ) = 2 * ceiling ∧
    2 * 10 ^ 308 < limit ∧ limit ≤ 2 * 10 ^ 309 := by
  refine ⟨(2 ^ 54 - 1) * 2 ^ 971, ?_, by decide +kernel, by decide +kernel⟩
  rw [ceiling, widestGap_eq, Nat.cast_mul]
  generalize ((2 ^ 971 : ℕ) : ℚ) = gap
  norm_num
  ring

theorem ten_pow_lt_ceiling_iff (power : Nat) : (10 : ℚ) ^ power < ceiling ↔ power ≤ 308 := by
  obtain ⟨limit, twice, under, reached⟩ := ceiling_bounds
  have bound : (10 : ℚ) ^ power < ceiling ↔ 2 * 10 ^ power < limit := by
    rw [← Nat.cast_lt (α := ℚ), twice]
    push_cast
    exact (mul_lt_mul_iff_right₀ (by norm_num)).symm
  rw [bound]
  constructor
  · intro less
    by_contra more
    have least : 309 ≤ power := Nat.lt_of_not_le more
    have grows : 10 ^ 309 ≤ 10 ^ power := pow_le_pow_right₀ (by decide) least
    exact absurd less (reached.trans (Nat.mul_le_mul_left 2 grows)).not_gt
  · intro less
    have grows : 10 ^ power ≤ 10 ^ 308 := pow_le_pow_right₀ (by decide) less
    exact (Nat.mul_le_mul_left 2 grows).trans_lt under

theorem exists_powerOfTen? {power : Nat} (small : power ≤ 308) :
    ∃ value, powerOfTen? power = some value ∧ 1 ≤ value.size ∧
      value.size ≤ 10 ^ power * (1 + 1 / 2 ^ 53) := by
  have whole : ((Nat.pow 10 power : ℕ) : ℚ) / (1 : ℕ) = 10 ^ power := by simp
  have found := exists_ofRatio?_normal false (Nat.pow 10 power) Nat.one_pos
    (by rw [whole]; exact (ten_pow_lt_ceiling_iff power).2 small)
    (by rw [whole]; exact one_le_pow₀ (by norm_num))
  rw [whole] at found
  exact found

end Double
end BlockMail.Number

