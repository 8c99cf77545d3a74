import BlockMail.Proofs.Time.TextOrder

/-!
# The time line

Days of the calendar counted one after the other, and seconds across days. An instant is
before another if fewer seconds have gone by, or as many and fewer nanoseconds of the last
one; a leap second goes on within the last second of its minute. The order of the parts of
instants is their order on the time line.
-/

set_option autoImplicit false

namespace BlockMail.Time

/-! ## Days -/

/-- The days from the beginning of the year 0 to that of a year. -/
def daysBeforeYear (year : Int) : Int :=
  365 * year + ((year + 3) / 4 - (year + 99) / 100 + (year + 399) / 400)

/-- The days of a year before a month. -/
def daysBeforeMonth (year : Int) : Nat → Nat
  | 0 => 0
  | month + 1 => daysBeforeMonth year month + daysInMonth year month

/-- The days from the beginning of the year 0, the day itself included. -/
def Date.dayNumber (date : Date) : Int :=
  daysBeforeYear date.year + daysBeforeMonth date.year date.month + date.day

theorem daysBeforeMonth_year (year : Int) :
    daysBeforeMonth year 13 = if isLeapYear year then 366 else 365 := by
  simp only [daysBeforeMonth, daysInMonth]
  split <;> rfl

theorem daysBeforeYear_next (year : Int) :
    daysBeforeYear (year + 1) = daysBeforeYear year + daysBeforeMonth year 13 := by
  rw [daysBeforeMonth_year]
  unfold daysBeforeYear isLeapYear
  split
  · rename_i leap
    simp at leap
    omega
  · rename_i common
    simp at common
    omega

theorem daysBeforeMonth_le (year : Int) {month later : Nat} (before : month < later) :
    daysBeforeMonth year month + daysInMonth year month ≤ daysBeforeMonth year later := by
  induction later, before using Nat.le_induction with
  | base => rfl
  | succ later _ ih => exact Nat.le_trans ih (Nat.le_add_right _ _)

theorem daysBeforeYear_le {year later : Int} (before : year < later) :
    daysBeforeYear year + daysBeforeMonth year 13 ≤ daysBeforeYear later := by
  rw [← daysBeforeYear_next]
  unfold daysBeforeYear
  omega

namespace Date

variable {date other : Date}

theorem lt_dayNumber (date : Date) :
    daysBeforeYear date.year + daysBeforeMonth date.year date.month < date.dayNumber := by
  obtain ⟨_, _, _, _, day, _⟩ := date.valid
  unfold dayNumber
  omega

theorem dayNumber_le {month : Nat} (before : date.month < month) :
    date.dayNumber ≤ daysBeforeYear date.year + daysBeforeMonth date.year month := by
  obtain ⟨_, _, _, _, _, day⟩ := date.valid
  have months := daysBeforeMonth_le date.year before
  unfold dayNumber
  omega

theorem dayNumber_lt_of_year (before : date.year < other.year) :
    date.dayNumber < other.dayNumber := by
  obtain ⟨_, _, _, month, _, _⟩ := date.valid
  calc
    date.dayNumber ≤ daysBeforeYear date.year + daysBeforeMonth date.year 13 :=
      dayNumber_le (Nat.lt_succ_of_le month)
    _ ≤ daysBeforeYear other.year := daysBeforeYear_le before
    _ ≤ daysBeforeYear other.year + daysBeforeMonth other.year other.month := by omega
    _ < other.dayNumber := other.lt_dayNumber

theorem dayNumber_lt_of_month (year : date.year = other.year) (before : date.month < other.month) :
    date.dayNumber < other.dayNumber := by
  calc
    date.dayNumber ≤ daysBeforeYear date.year + daysBeforeMonth date.year other.month :=
      dayNumber_le before
    _ = daysBeforeYear other.year + daysBeforeMonth other.year other.month := by rw [year]
    _ < other.dayNumber := other.lt_dayNumber

theorem dayNumber_lt_of_day (year : date.year = other.year) (month : date.month = other.month)
    (before : date.day < other.day) : date.dayNumber < other.dayNumber := by
  unfold dayNumber
  rw [year, month]
  omega

theorem of?_eq_some {year : Int} {month day : Nat} (made : of? year month day = some date) :
    date.year = year ∧ date.month = month ∧ date.day = day := by
  unfold of? at made
  split at made
  · cases made
    exact ⟨rfl, rfl, rfl⟩
  · cases made

/-- The day after a day has the next number. -/
theorem dayNumber_next? (after : date.next? = some other) :
    other.dayNumber = date.dayNumber + 1 := by
  obtain ⟨_, _, _, monthMost, _, dayMost⟩ := date.valid
  unfold next? at after
  split at after
  · obtain ⟨year, month, day⟩ := of?_eq_some after
    unfold dayNumber
    rw [year, month, day]
    omega
  · rename_i more
    have last : date.day = daysInMonth date.year date.month := by omega
    split at after
    · obtain ⟨year, month, day⟩ := of?_eq_some after
      unfold dayNumber
      rw [year, month, day, daysBeforeMonth]
      omega
    · rename_i december
      have twelve : date.month = 12 := by omega
      obtain ⟨year, month, day⟩ := of?_eq_some after
      have whole : daysBeforeMonth date.year 13 =
        daysBeforeMonth date.year 12 + daysInMonth date.year 12 := rfl
      have front : daysBeforeMonth (date.year + 1) 1 = 0 := rfl
      unfold dayNumber
      rw [year, month, day, daysBeforeYear_next, front, last, twelve, whole]
      omega

example : (⟨2024, 3, 1, by decide⟩ : Date).dayNumber =
    (⟨2024, 2, 28, by decide⟩ : Date).dayNumber + 2 := by decide

end Date

/-! ## Instants -/

namespace Instant

/-- The whole seconds that have gone by. A leap second counts as the one it goes on from. -/
def seconds (instant : Instant) : Int :=
  instant.date.dayNumber * 86400 + instant.minute * 60 + instant.second

/-- Whether an instant comes first on the time line. -/
def Before (instant later : Instant) : Prop :=
  instant.seconds < later.seconds ∨
    instant.seconds = later.seconds ∧ instant.nanos < later.nanos

instance (instant later : Instant) : Decidable (instant.Before later) :=
  inferInstanceAs (Decidable (_ ∨ _))

variable {left right : Instant}

theorem Before.asymm (before : left.Before right) : ¬right.Before left := by
  unfold Before at before ⊢
  omega

theorem eq_of_parts (same : left.parts = right.parts) : left = right := by
  obtain ⟨⟨year, month, day, dated⟩, minute, second, nanos, timed⟩ := left
  simp only [parts, List.cons.injEq, Int.ofNat_inj, and_true] at same
  obtain ⟨rfl, rfl, rfl, rfl, rfl, rfl⟩ := same
  rfl

theorem seconds_lt_of_date (earlier : left.date.dayNumber < right.date.dayNumber) :
    left.seconds < right.seconds := by
  obtain ⟨minute, second, _, _⟩ := left.valid
  unfold seconds
  omega

/-- Parts in order are in order on the time line, over the end of every minute, day, month
and year. -/
theorem before_of_parts (less : left.parts < right.parts) : left.Before right := by
  simp only [parts, List.cons_lt_cons_iff, Int.ofNat_lt, Int.ofNat_inj, List.lt_irrefl, and_false,
    or_false] at less
  -- Whatever differs first decides: the date by the number of the day, or else the time.
  rcases less with year | ⟨year, month | ⟨month, day | ⟨day, time⟩⟩⟩
  · exact .inl (seconds_lt_of_date (Date.dayNumber_lt_of_year year))
  · exact .inl (seconds_lt_of_date (Date.dayNumber_lt_of_month year month))
  · exact .inl (seconds_lt_of_date (Date.dayNumber_lt_of_day year month day))
  · obtain ⟨_, leftSecond, _, _⟩ := left.valid
    obtain ⟨_, rightSecond, _, _⟩ := right.valid
    have sameDay : left.date.dayNumber = right.date.dayNumber := by
      unfold Date.dayNumber
      rw [year, month, day]
    unfold Before seconds
    omega

theorem before_iff : left.Before right ↔ left.parts < right.parts := by
  constructor
  · intro before
    rcases lt_trichotomy left.parts right.parts with less | same | more
    · exact less
    · rw [eq_of_parts same] at before
      exact absurd before before.asymm
    · exact absurd before (before_of_parts more).asymm
  · exact before_of_parts

theorem notBefore_iff_before : left.notBefore right = true ↔ ¬left.Before right := by
  rw [notBefore_iff, before_iff]

/-- How the texts of two instants compare, as far as microseconds go. -/
structure SameOrder (left right : Instant) : Prop where
  before : left.microsText < right.microsText ↔
    left.truncateMicros.Before right.truncateMicros
  same : left.microsText = right.microsText ↔ left.truncateMicros = right.truncateMicros
  notBefore : decide (right.microsText ≤ left.microsText) =
    left.truncateMicros.notBefore right.truncateMicros

theorem sameOrder (leftYear : left.FourDigits) (rightYear : right.FourDigits) :
    SameOrder left right := by
  have order : left.microsText < right.microsText ↔
      left.truncateMicros.Before right.truncateMicros := by
    rw [microsText_lt_iff leftYear rightYear, before_iff]
  constructor
  case before => exact order
  case same =>
    constructor
    · exact truncateMicros_of_microsText leftYear rightYear
    · intro same
      apply le_antisymm
      · rw [← String.not_lt, microsText_lt_iff rightYear leftYear, same]
        exact List.lt_irrefl _
      · rw [← String.not_lt, microsText_lt_iff leftYear rightYear, same]
        exact List.lt_irrefl _
  case notBefore =>
    rw [Bool.eq_iff_iff, decide_eq_true_eq, notBefore_iff_before, ← order, String.not_lt]

end Instant

end BlockMail.Time
