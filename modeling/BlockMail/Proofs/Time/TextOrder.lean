import Mathlib.Data.String.Basic
import Mathlib.Data.Int.Order.Basic
import BlockMail.Proofs.Time.Timestamps

/-!
# The order of written timestamps

Timestamps with six fraction digits have their fields in fixed widths, most significant
first. So in years of four digits the order of the texts is the order of the times, as
far as the texts show them.
-/

set_option autoImplicit false

namespace BlockMail.Time

/-! ## Fields of fixed width -/

theorem ofDigitChars_mono {left right : List Char} (same : left.length = right.length)
    (digits : ∀ char ∈ left, Scan.isDigit char = true) {below above : Nat}
    (less : below < above) :
    Nat.ofDigitChars 10 left below < Nat.ofDigitChars 10 right above := by
  induction left generalizing right below above with
  | nil =>
      rw [List.length_nil, eq_comm, List.length_eq_zero_iff] at same
      subst same
      simpa using less
  | cons first rest ih =>
      cases right with
      | nil => simp at same
      | cons second others =>
          have bounds := digit_bounds (digits first List.mem_cons_self)
          have zero : '0'.toNat = 48 := rfl
          rw [Nat.ofDigitChars_cons, Nat.ofDigitChars_cons, zero]
          apply ih (Nat.succ.inj same)
          · intro char member
            exact digits char (List.mem_cons_of_mem _ member)
          · omega

/-- Of two numbers in as many digits, the one whose text comes first is smaller. -/
theorem ofDigitChars_lt {left right : List Char} (same : left.length = right.length)
    (digits : ∀ char ∈ left, Scan.isDigit char = true)
    (otherDigits : ∀ char ∈ right, Scan.isDigit char = true) (before : left < right)
    (start : Nat) :
    Nat.ofDigitChars 10 left start < Nat.ofDigitChars 10 right start := by
  induction left generalizing right start with
  | nil =>
      rw [List.length_nil, eq_comm, List.length_eq_zero_iff] at same
      subst same
      exact absurd before (List.lt_irrefl _)
  | cons first rest ih =>
      cases right with
      | nil => simp at same
      | cons second others =>
          have restDigits (char : Char) (member : char ∈ rest) :=
            digits char (List.mem_cons_of_mem _ member)
          rw [Nat.ofDigitChars_cons, Nat.ofDigitChars_cons]
          rcases List.cons_lt_cons_iff.1 before with less | ⟨rfl, later⟩
          · have lower := digit_bounds (digits first List.mem_cons_self)
            have upper := digit_bounds (otherDigits second List.mem_cons_self)
            have smaller : first.toNat < second.toNat := less
            have zero : '0'.toNat = 48 := rfl
            apply ofDigitChars_mono (Nat.succ.inj same) restDigits
            omega
          · apply ih (Nat.succ.inj same) restDigits _ later
            intro char member
            exact otherDigits char (List.mem_cons_of_mem _ member)

theorem ofDigitChars_padded (width value : Nat) :
    Nat.ofDigitChars 10 (padded width value).toList 0 = value := by
  rw [padded_toList, Nat.ofDigitChars_append, Nat.ofDigitChars_replicate_zero,
    Nat.mul_zero, Nat.ofDigitChars_ten_toDigits]

theorem padded_lt_iff {width left right : Nat} (positive : 0 < width)
    (leftFits : left < 10 ^ width) (rightFits : right < 10 ^ width) :
    (padded width left).toList < (padded width right).toList ↔ left < right := by
  have strict {first second : Nat} (firstFits : first < 10 ^ width)
      (secondFits : second < 10 ^ width)
      (before : (padded width first).toList < (padded width second).toList) :
      first < second := by
    have values := ofDigitChars_lt
      ((length_padded positive firstFits).trans (length_padded positive secondFits).symm)
      (fun _ => isDigit_of_mem_padded) (fun _ => isDigit_of_mem_padded) before 0
    rwa [ofDigitChars_padded, ofDigitChars_padded] at values
  constructor
  · exact strict leftFits rightFits
  · intro less
    rcases lt_trichotomy (padded width left).toList (padded width right).toList with
      before | same | behind
    · exact before
    · have equal := congrArg (Nat.ofDigitChars 10 · 0) same
      simp only [ofDigitChars_padded] at equal
      omega
    · have more := strict rightFits leftFits behind
      omega

theorem append_lt_append_iff {left right : List Char} (same : left.length = right.length)
    (rest tail : List Char) :
    left ++ rest < right ++ tail ↔ left < right ∨ left = right ∧ rest < tail := by
  induction left generalizing right with
  | nil =>
      rw [List.length_nil, eq_comm, List.length_eq_zero_iff] at same
      subst same
      simp
  | cons first others ih =>
      cases right with
      | nil => simp at same
      | cons second more =>
          simp only [List.cons_append, List.cons_lt_cons_iff, ih (Nat.succ.inj same),
            List.cons.injEq]
          tauto

/-- Two texts that begin with fields of one width. -/
theorem field_lt_iff {width left right : Nat} (positive : 0 < width)
    (leftFits : left < 10 ^ width) (rightFits : right < 10 ^ width)
    (rest tail : List Char) :
    (padded width left).toList ++ rest < (padded width right).toList ++ tail ↔
      left < right ∨ left = right ∧ rest < tail := by
  have lengths := (length_padded positive leftFits).trans
    (length_padded positive rightFits).symm
  have exact : (padded width left).toList = (padded width right).toList ↔ left = right := by
    constructor
    · intro same
      have values := congrArg (Nat.ofDigitChars 10 · 0) same
      simpa only [ofDigitChars_padded] using values
    · rintro rfl
      rfl
  rw [append_lt_append_iff lengths, padded_lt_iff positive leftFits rightFits, exact]

theorem divider_lt_iff (divider : Char) (rest tail : List Char) :
    divider :: rest < divider :: tail ↔ rest < tail := by
  simp

/-! ## Instants -/

namespace Instant

theorem notBefore_iff {later earlier : Instant} :
    later.notBefore earlier = true ↔ ¬later.parts < earlier.parts := by
  unfold notBefore
  rw [Bool.not_eq_true', ← Bool.not_eq_true, List.lex_eq_true_iff_lt]

theorem notBefore_trans (first second third : Instant) (one : first.notBefore second = true)
    (two : second.notBefore third = true) : first.notBefore third = true := by
  rw [notBefore_iff, not_lt] at one two ⊢
  exact two.trans one

theorem notBefore_total (first second : Instant) :
    (first.notBefore second || second.notBefore first) = true := by
  rw [Bool.or_eq_true, notBefore_iff, notBefore_iff, not_lt, not_lt]
  exact le_total _ _

/-- Hours and minutes in order are minutes of the day in order. -/
private theorem minute_lt_iff (left right : Nat) (rest : Prop) :
    (left / 60 < right / 60 ∨ left / 60 = right / 60 ∧
      (left % 60 < right % 60 ∨ left % 60 = right % 60 ∧ rest)) ↔
    (left < right ∨ left = right ∧ rest) := by
  by_cases holds : rest
  · simp only [holds, and_true]
    omega
  · simp only [holds, and_false, or_false]
    omega

/-- Written seconds and microseconds in order are seconds in order: a leap second, as the
last of its minute, is written with a number of its own. -/
private theorem second_lt_iff (left right : Instant) (rest : Prop) :
    (left.writtenSecond < right.writtenSecond ∨ left.writtenSecond = right.writtenSecond ∧
      (left.writtenNanos / 1000 < right.writtenNanos / 1000 ∨
        left.writtenNanos / 1000 = right.writtenNanos / 1000 ∧ rest)) ↔
    (left.second < right.second ∨ left.second = right.second ∧
      (left.nanos / 1000 * 1000 < right.nanos / 1000 * 1000 ∨
        left.nanos / 1000 * 1000 = right.nanos / 1000 * 1000 ∧ rest)) := by
  obtain ⟨_, leftSecond, leftNanos, leftLeap⟩ := left.valid
  obtain ⟨_, rightSecond, rightNanos, rightLeap⟩ := right.valid
  unfold writtenSecond writtenNanos
  by_cases holds : rest
  · simp only [holds, and_true]
    split <;> split <;> omega
  · simp only [holds, and_false, or_false]
    split <;> split <;> omega

/-- The text that comes first is that of the earlier time, as far as microseconds go. -/
theorem microsText_lt_iff {left right : Instant} (leftYear : left.FourDigits)
    (rightYear : right.FourDigits) :
    left.microsText < right.microsText ↔
      left.truncateMicros.parts < right.truncateMicros.parts := by
  obtain ⟨leftMinute, _, _, _⟩ := left.valid
  obtain ⟨rightMinute, _, _, _⟩ := right.valid
  obtain ⟨_, _, _, leftMonth, _, leftDay⟩ := left.date.valid
  obtain ⟨_, _, _, rightMonth, _, rightDay⟩ := right.date.valid
  have leftShort := daysInMonth_le left.date.year left.date.month
  have rightShort := daysInMonth_le right.date.year right.date.month
  have leftPast := leftYear.1
  have leftLate := leftYear.2
  have rightPast := rightYear.1
  have rightLate := rightYear.2
  have years : (left.date.year.toNat < right.date.year.toNat ↔
      left.date.year < right.date.year) ∧ (left.date.year.toNat = right.date.year.toNat ↔
      left.date.year = right.date.year) := by omega
  rw [String.lt_iff_toList_lt, microsText_toList leftYear, microsText_toList rightYear,
    field_lt_iff (by decide) (by omega) (by omega), divider_lt_iff,
    field_lt_iff (by decide) (by omega) (by omega), divider_lt_iff,
    field_lt_iff (by decide) (by omega) (by omega), divider_lt_iff,
    field_lt_iff (by decide) (by omega) (by omega), divider_lt_iff,
    field_lt_iff (by decide) (by omega) (by omega), divider_lt_iff,
    field_lt_iff (by decide) left.writtenSecond_lt right.writtenSecond_lt, divider_lt_iff,
    field_lt_iff (by decide) left.writtenMicros_lt right.writtenMicros_lt,
    minute_lt_iff, second_lt_iff, years.1, years.2]
  simp only [parts, truncateMicros, List.cons_lt_cons_iff, Int.ofNat_lt, Int.ofNat_inj,
    List.lt_irrefl, and_false]

/-- Cutting off what lies below microseconds turns no order around. -/
theorem parts_lt_of_truncate {left right : Instant}
    (less : left.truncateMicros.parts < right.truncateMicros.parts) :
    left.parts < right.parts := by
  simp only [parts, truncateMicros, List.cons_lt_cons_iff, Int.ofNat_lt, Int.ofNat_inj,
    List.lt_irrefl, and_false, or_false] at less ⊢
  have cut : left.nanos / 1000 * 1000 < right.nanos / 1000 * 1000 →
      left.nanos < right.nanos := by omega
  tauto

theorem microsText_le_of_notBefore {later earlier : Instant} (laterYear : later.FourDigits)
    (earlierYear : earlier.FourDigits) (order : later.notBefore earlier = true) :
    earlier.microsText ≤ later.microsText := by
  rw [notBefore_iff] at order
  rw [← String.not_lt]
  intro less
  exact order (parts_lt_of_truncate ((microsText_lt_iff laterYear earlierYear).1 less))

/-- Times with one text are equal up to microseconds. -/
theorem truncateMicros_of_microsText {left right : Instant} (leftYear : left.FourDigits)
    (rightYear : right.FourDigits) (same : left.microsText = right.microsText) :
    left.truncateMicros = right.truncateMicros := by
  have one := readExact_microsText leftYear
  rw [same, readExact_microsText rightYear] at one
  exact (Except.ok.inj one).symm

end Instant

end BlockMail.Time
