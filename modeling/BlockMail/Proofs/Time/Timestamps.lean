import Mathlib.Algebra.Group.Nat.Defs
import BlockMail.Time.Rfc3339

/-!
# Written timestamps read back

What the writer of a timestamp with six fraction digits puts down, the exact
reader takes for the instant without what lies below a microsecond. This needs a
year of four digits: other years are written with a sign, which the reader
refuses.
-/

set_option autoImplicit false

namespace BlockMail.Time

/-! ## Padded numbers -/

theorem padded_toList (width value : Nat) :
    (padded width value).toList =
      List.replicate (width - (Nat.toDigits 10 value).length) '0' ++
        Nat.toDigits 10 value := by
  simp [padded]

theorem length_padded {width value : Nat} (positive : 0 < width)
    (fits : value < 10 ^ width) : (padded width value).toList.length = width := by
  have short := (Nat.length_toDigits_le_iff (by decide : 1 < 10) positive).2 fits
  rw [padded_toList, List.length_append, List.length_replicate]
  omega

theorem le_length_padded (width value : Nat) : width ≤ (padded width value).toList.length := by
  rw [padded_toList, List.length_append, List.length_replicate]
  omega

theorem isDigit_of_isDigit {char : Char} (digit : char.isDigit = true) :
    Scan.isDigit char = true := by
  simp only [Char.isDigit, Bool.and_eq_true, decide_eq_true_eq] at digit
  simp only [Scan.isDigit, Bool.and_eq_true, decide_eq_true_eq]
  exact digit

theorem digit_bounds {char : Char} (digit : Scan.isDigit char = true) :
    48 ≤ char.toNat ∧ char.toNat ≤ 57 := by
  simp only [Scan.isDigit, Bool.and_eq_true, decide_eq_true_eq] at digit
  exact digit

theorem isDigit_of_mem_padded {width value : Nat} {char : Char}
    (member : char ∈ (padded width value).toList) : Scan.isDigit char = true := by
  rw [padded_toList, List.mem_append] at member
  rcases member with zero | digit
  · rw [List.eq_of_mem_replicate zero]
    rfl
  · exact isDigit_of_isDigit (Nat.isDigit_of_mem_toDigits (by decide) (by decide) digit)

theorem natural_padded {width value : Nat} (fits : value < 2 ^ 63) :
    Scan.natural (padded width value).toList = .ok value := by
  have denotes : (padded width value).toList.foldl
      (fun value digit => value * 10 + (digit.toNat - 48)) 0 = value := by
    calc
      _ = Nat.ofDigitChars 10 (padded width value).toList 0 := by
        simp only [Nat.ofDigitChars_eq_foldl, Nat.mul_comm]
        rfl
      _ = value := by
        rw [padded_toList, Nat.ofDigitChars_append, Nat.ofDigitChars_replicate_zero,
          Nat.mul_zero, Nat.ofDigitChars_ten_toDigits]
  simp only [Scan.natural, denotes]
  exact if_pos fits

theorem daysInMonth_le (year : Int) (month : Nat) : daysInMonth year month ≤ 31 := by
  unfold daysInMonth
  repeat' split
  all_goals decide

/-! ## Scanning -/

namespace Scan

theorem le_byteLength (text : List Char) : text.length ≤ byteLength text := by
  have grows (text : List Char) (start : Nat) :
      start + text.length ≤
        text.foldl (fun length char => length + char.utf8Size) start := by
    induction text generalizing start with
    | nil => simp
    | cons char rest ih =>
        have positive := char.utf8Size_pos
        have tail := ih (start + char.utf8Size)
        simp only [List.foldl_cons, List.length_cons]
        omega
  simpa [byteLength] using grows text 0

/-- A scan that goes on after another one goes on with what the first left. -/
theorem run_bind_ok {Value Next : Type} {scan : Scan Value} {onward : Value → Scan Next}
    {text rest : List Char} {value : Value} (first : scan.run text = .ok (value, rest)) :
    (scan >>= onward).run text = (onward value).run rest := by
  rw [StateT.run_bind, first]
  rfl

/-- A scan that fails fails whatever would go on after it. -/
theorem run_bind_error {Value Next : Type} {scan : Scan Value} {onward : Value → Scan Next}
    {text : List Char} {fault : TimestampFault} (first : scan.run text = .error fault) :
    (scan >>= onward).run text = .error fault := by
  rw [StateT.run_bind, first]
  rfl

theorem run_number_of_window {least value : Nat} {most : Option Nat} {digits rest : List Char}
    (window : ((most.map ((digits ++ rest).take ·)).getD (digits ++ rest)).takeWhile isDigit =
      digits) (enough : least ≤ digits.length) (denotes : natural digits = .ok value) :
    (number least most).run (digits ++ rest) = .ok (value, rest) := by
  have long : ¬byteLength (digits ++ rest) < least := by
    have bytes := le_byteLength (digits ++ rest)
    rw [List.length_append] at bytes
    omega
  have short : ¬digits.length < least := by omega
  simp only [number, StateT.run_bind]
  simp only [StateT.run_get, pure_bind, long, ↓reduceIte, window, short, List.drop_left',
    denotes, StateT.run_bind, StateT.run_set, StateT.run_monadLift, monadLift_self,
    bind_pure_comp]
  rfl

/-- The digits at the front, up to the first character that is none. -/
theorem run_number {least most value : Nat} {digits rest : List Char}
    (all : ∀ char ∈ digits, isDigit char = true) (enough : least ≤ digits.length)
    (atMost : digits.length ≤ most)
    (stops : digits.length = most ∨ ∀ char ∈ rest.head?, isDigit char = false)
    (denotes : natural digits = .ok value) :
    (number least (some most)).run (digits ++ rest) = .ok (value, rest) := by
  refine run_number_of_window ?_ enough denotes
  rw [Option.map_some, Option.getD_some, List.take_append, List.take_of_length_le atMost,
    List.takeWhile_append_of_pos all]
  rcases stops with full | stop
  · simp [full]
  · cases rest with
    | nil => simp
    | cons char rest =>
        cases left : most - digits.length with
        | zero => simp
        | succ more => simp [stop char (by simp)]

/-- A field of fixed width that holds a padded number. -/
theorem run_padded_of_le {least width value : Nat} (enough : least ≤ width)
    (positive : 0 < width) (narrow : width ≤ 9) (fits : value < 10 ^ width) (rest : List Char) :
    (number least (some width)).run ((padded width value).toList ++ rest) =
      .ok (value, rest) := by
  have exact := length_padded positive fits
  have small : value < 2 ^ 63 := by
    have below : 10 ^ width ≤ 10 ^ 9 := Nat.pow_le_pow_right (by decide) narrow
    omega
  exact run_number (fun _ => isDigit_of_mem_padded) (by omega) (Nat.le_of_eq exact)
    (.inl exact) (natural_padded small)

theorem run_padded {width value : Nat} (positive : 0 < width) (narrow : width ≤ 9)
    (fits : value < 10 ^ width) (rest : List Char) :
    (number width (some width)).run ((padded width value).toList ++ rest) =
      .ok (value, rest) :=
  run_padded_of_le (Nat.le_refl width) positive narrow fits rest

/-- No number begins with a character that is no digit. -/
theorem run_number_of_sign {least most : Nat} {sign : Char} {rest : List Char}
    (noDigit : isDigit sign = false) (positive : 0 < least) (long : least ≤ rest.length) :
    (number least (some most)).run (sign :: rest) = .error .invalid := by
  have window : ((sign :: rest).take most).takeWhile isDigit = [] := by
    cases most <;> simp [noDigit]
  have enough : ¬byteLength (sign :: rest) < least := by
    have bytes := le_byteLength (sign :: rest)
    rw [List.length_cons] at bytes
    omega
  simp only [number, StateT.run_bind, StateT.run_get, pure_bind, enough, ↓reduceIte,
    Option.map_some, Option.getD_some, window, List.length_nil, positive]
  rfl

theorem run_char (expected : Char) (rest : List Char) :
    (char expected).run (expected :: rest) = .ok ((), rest) := by
  simp [char]
  rfl

theorem run_separator (rest : List Char) :
    separator.run ('T' :: rest) = .ok ((), rest) := by
  simp [separator]
  rfl

/-- The digits of a fraction, in nanoseconds. -/
theorem run_fraction {width value : Nat} (positive : 0 < width) (narrow : width ≤ 9)
    (fits : value < 10 ^ width) :
    fraction.run ('.' :: ((padded width value).toList ++ ['Z'])) =
      .ok (value * 10 ^ (9 - width), ['Z']) := by
  have exact := length_padded positive fits
  have digits : ∀ char ∈ (padded width value).toList, isDigit char = true :=
    fun _ => isDigit_of_mem_padded
  have window : (((padded width value).toList ++ ['Z']).take 9).takeWhile isDigit =
      (padded width value).toList := by
    rw [List.take_append, List.take_of_length_le (by omega),
      List.takeWhile_append_of_pos digits]
    cases 9 - (padded width value).toList.length <;> simp [isDigit]
  have small : value < 2 ^ 63 := by
    have below : 10 ^ width ≤ 10 ^ 9 := Nat.pow_le_pow_right (by decide) narrow
    omega
  have scanned : (number 1 (some 9)).run ((padded width value).toList ++ ['Z']) =
      .ok (value, ['Z']) :=
    run_number digits (by omega) (by omega) (.inr (by simp [isDigit]))
      (natural_padded small)
  simp only [fraction, StateT.run_bind]
  simp [window, scanned, exact]
  rfl

/-- The letter for universal time. -/
theorem run_offset_utc (divider : Scan Unit) : (offset divider).run ['Z'] = .ok (0, []) :=
  rfl

theorem run_inRange {Value : Type} {found : Option Value} {value : Value}
    (there : found = some value) (rest : List Char) :
    (inRange found).run rest = .ok (value, rest) := by
  subst there
  rfl

theorem run_exactDate (date : Date) (early : 0 ≤ date.year) (late : date.year ≤ 9999)
    (rest : List Char) :
    exactDate.run
        ((padded 4 date.year.toNat).toList ++ '-' ::
          ((padded 2 date.month).toList ++ '-' ::
            ((padded 2 date.day).toList ++ rest))) =
      .ok (date, rest) := by
  obtain ⟨_, _, _, month, _, day⟩ := date.valid
  have short := daysInMonth_le date.year date.month
  have year : ((date.year.toNat : Nat) : Int) = date.year := Int.toNat_of_nonneg early
  have there : Date.of? (date.year.toNat : Nat) date.month date.day = some date := by
    rw [year]
    simp [Date.of?, date.valid]
  unfold exactDate exactField
  rw [run_bind_ok (run_padded (by decide) (by decide) (by omega) _),
    run_bind_ok (run_char '-' _),
    run_bind_ok (run_padded (by decide) (by decide) (by omega) _),
    run_bind_ok (run_char '-' _),
    run_bind_ok (run_padded (by decide) (by decide) (by omega) _)]
  exact run_inRange there rest

end Scan

namespace Instant

theorem writtenSecond_le (instant : Instant) : instant.writtenSecond ≤ 60 := by
  obtain ⟨_, second, _, _⟩ := instant.valid
  unfold writtenSecond
  split <;> omega

theorem writtenSecond_lt (instant : Instant) : instant.writtenSecond < 10 ^ 2 :=
  Nat.lt_of_le_of_lt instant.writtenSecond_le (by decide)

theorem writtenNanos_lt (instant : Instant) : instant.writtenNanos < 10 ^ 9 := by
  obtain ⟨_, _, nanos, _⟩ := instant.valid
  unfold writtenNanos
  split <;> omega

theorem writtenMicros_lt (instant : Instant) : instant.writtenNanos / 1000 < 10 ^ 6 := by
  have nanos := instant.writtenNanos_lt
  omega

theorem hours_minutes (instant : Instant) :
    instant.minute / 60 * 60 + instant.minute % 60 = instant.minute := by
  omega

/-- The time of day as it is written is shown by no other instant. -/
theorem shownAt_written (instant : Instant) :
    Scan.shownAt instant.date (instant.minute / 60) (instant.minute % 60)
        instant.writtenSecond instant.writtenNanos =
      some instant := by
  obtain ⟨minute, second, nanos, leap⟩ := instant.valid
  have day : ¬(23 < instant.minute / 60 ∨ 59 < instant.minute % 60) := by omega
  unfold Scan.shownAt
  rw [if_neg day, hours_minutes]
  unfold writtenSecond writtenNanos
  by_cases plain : instant.nanos < 1000000000
  · simp only [plain, ↓reduceIte, show ¬instant.second = 60 by omega, of?, instant.valid]
    rfl
  · have last : instant.second = 59 := by omega
    have whole : instant.nanos - 1000000000 + 1000000000 = instant.nanos := by omega
    have valid : ValidTime instant.minute 59 instant.nanos := by
      rw [← last]
      exact instant.valid
    simp only [plain, ↓reduceIte, last, whole, of?, valid]
    simp [← last]

/-- Cutting an instant off at a microsecond cuts off what is written of it. -/
theorem shownAt_writtenMicros (instant : Instant) :
    Scan.shownAt instant.date (instant.minute / 60) (instant.minute % 60)
        instant.writtenSecond (instant.writtenNanos / 1000 * 1000) =
      some instant.truncateMicros := by
  have same : instant.nanos / 1000 * 1000 < 1000000000 ↔ instant.nanos < 1000000000 := by
    omega
  have second : instant.truncateMicros.writtenSecond = instant.writtenSecond := by
    simp only [writtenSecond, truncateMicros, same]
  have nanos : instant.truncateMicros.writtenNanos = instant.writtenNanos / 1000 * 1000 := by
    simp only [writtenNanos, truncateMicros, same]
    by_cases plain : instant.nanos < 1000000000
    · simp only [plain, ↓reduceIte]
    · simp only [plain, ↓reduceIte]
      omega
  rw [← second, ← nanos]
  exact instant.truncateMicros.shownAt_written

theorem behind?_zero (instant : Instant) : instant.behind? 0 = some instant := by
  obtain ⟨minute, _, _, _⟩ := instant.valid
  have notBefore : ¬(instant.minute : Int) - 0 < 0 := by omega
  have notAfter : ¬1440 ≤ (instant.minute : Int) - 0 := by omega
  unfold behind?
  dsimp only
  rw [if_neg notBefore, if_neg notAfter]
  simp [of?, instant.valid]

/-- Whether the year is written with four digits. -/
def FourDigits (instant : Instant) : Prop :=
  0 ≤ instant.date.year ∧ instant.date.year ≤ 9999

instance (instant : Instant) : Decidable instant.FourDigits :=
  inferInstanceAs (Decidable (_ ∧ _))

theorem microsText_toList {instant : Instant} (years : instant.FourDigits) :
    instant.microsText.toList =
      (padded 4 instant.date.year.toNat).toList ++ '-' ::
        ((padded 2 instant.date.month).toList ++ '-' ::
          ((padded 2 instant.date.day).toList ++ 'T' ::
            ((padded 2 (instant.minute / 60)).toList ++ ':' ::
              ((padded 2 (instant.minute % 60)).toList ++ ':' ::
                ((padded 2 instant.writtenSecond).toList ++ '.' ::
                  ((padded 6 (instant.writtenNanos / 1000)).toList ++ ['Z'])))))) := by
  simp [microsText, dateAndTime, yearText, years.1, years.2]

/-- Times in years of four digits are written in one width. -/
theorem length_microsText {instant : Instant} (years : instant.FourDigits) :
    instant.microsText.toList.length = 27 := by
  have late := years.2
  obtain ⟨minute, _, _, _⟩ := instant.valid
  obtain ⟨_, _, _, month, _, day⟩ := instant.date.valid
  have short := daysInMonth_le instant.date.year instant.date.month
  rw [microsText_toList years]
  simp only [List.length_append, List.length_cons, List.length_nil]
  rw [length_padded (by decide) (by omega), length_padded (by decide) (by omega),
    length_padded (by decide) (by omega), length_padded (by decide) (by omega),
    length_padded (by decide) (by omega), length_padded (by decide) instant.writtenSecond_lt,
    length_padded (by decide) instant.writtenMicros_lt]

/-- Years that four digits do not hold are written with a sign. -/
theorem microsText_of_signed {instant : Instant} (signed : ¬instant.FourDigits) :
    ∃ sign rest, instant.microsText.toList = sign :: rest ∧ Scan.isDigit sign = false ∧
      Scan.dateAndTimeLength ≤ rest.length := by
  have year := le_length_padded 4 instant.date.year.natAbs
  have month := le_length_padded 2 instant.date.month
  have day := le_length_padded 2 instant.date.day
  have hour := le_length_padded 2 (instant.minute / 60)
  have minute := le_length_padded 2 (instant.minute % 60)
  have second := le_length_padded 2 instant.writtenSecond
  have unplain : ¬(0 ≤ instant.date.year ∧ instant.date.year ≤ 9999) := signed
  have text : instant.microsText.toList =
      (if instant.date.year < 0 then '-' else '+') ::
        ((padded 4 instant.date.year.natAbs).toList ++ '-' ::
          ((padded 2 instant.date.month).toList ++ '-' ::
            ((padded 2 instant.date.day).toList ++ 'T' ::
              ((padded 2 (instant.minute / 60)).toList ++ ':' ::
                ((padded 2 (instant.minute % 60)).toList ++ ':' ::
                  ((padded 2 instant.writtenSecond).toList ++ '.' ::
                    ((padded 6 (instant.writtenNanos / 1000)).toList ++ ['Z']))))))) := by
    by_cases negative : instant.date.year < 0 <;>
      simp [microsText, dateAndTime, yearText, unplain, negative]
  refine ⟨_, _, text, by split <;> rfl, ?_⟩
  simp only [List.length_append, List.length_cons, Scan.dateAndTimeLength]
  omega

end Instant

/-- The text of a time of a year with four digits is read as that time, up to
microseconds. -/
theorem readExact_microsText {instant : Instant} (years : instant.FourDigits) :
    readExact instant.microsText = .ok instant.truncateMicros := by
  obtain ⟨minute, second, nanos, leap⟩ := instant.valid
  obtain ⟨_, _, _, monthFits, _, dayFits⟩ := instant.date.valid
  have short := daysInMonth_le instant.date.year instant.date.month
  have month : instant.date.month < 10 ^ 2 := by omega
  have day : instant.date.day < 10 ^ 2 := by omega
  have hours : instant.minute / 60 < 10 ^ 2 := by omega
  have minutes : instant.minute % 60 < 10 ^ 2 := by omega
  have micros := instant.writtenMicros_lt
  have seconds := instant.writtenSecond_lt
  have fraction : Scan.fraction.run
      ('.' :: ((padded 6 (instant.writtenNanos / 1000)).toList ++ ['Z'])) =
        .ok (instant.writtenNanos / 1000 * 1000, ['Z']) :=
    Scan.run_fraction (by decide) (by decide) micros
  have scanned : Scan.exactInstant.run instant.microsText.toList =
      .ok (instant.truncateMicros, []) := by
    have long : ¬Scan.byteLength instant.microsText.toList <
        Scan.dateAndTimeLength := by
      have bytes := Scan.le_byteLength instant.microsText.toList
      have length := Instant.length_microsText years
      unfold Scan.dateAndTimeLength
      omega
    rw [Instant.microsText_toList years] at long ⊢
    unfold Scan.exactInstant Scan.exactField
    rw [Scan.run_bind_ok (StateT.run_get _), if_neg long]
    dsimp only
    rw [Scan.run_bind_ok (Scan.run_exactDate instant.date years.1 years.2 _),
      Scan.run_bind_ok (Scan.run_separator _),
      Scan.run_bind_ok (Scan.run_padded (by decide) (by decide) hours _),
      Scan.run_bind_ok (Scan.run_char ':' _),
      Scan.run_bind_ok (Scan.run_padded (by decide) (by decide) minutes _),
      Scan.run_bind_ok (Scan.run_char ':' _),
      Scan.run_bind_ok (Scan.run_padded (by decide) (by decide) seconds _),
      Scan.run_bind_ok fraction,
      Scan.run_bind_ok (Scan.run_inRange instant.shownAt_writtenMicros _),
      Scan.run_bind_ok (Scan.run_offset_utc _),
      Scan.run_bind_ok (StateT.run_get _)]
    exact Scan.run_inRange instant.truncateMicros.behind?_zero []
  simp [readExact, scanned]
  rfl

/-- The text of a time of any other year is refused at its sign. -/
theorem readExact_of_signed {instant : Instant} (signed : ¬instant.FourDigits) :
    readExact instant.microsText = .error .invalid := by
  obtain ⟨sign, rest, text, noDigit, long⟩ := Instant.microsText_of_signed signed
  have enough : ¬Scan.byteLength (sign :: rest) < Scan.dateAndTimeLength := by
    have bytes := Scan.le_byteLength (sign :: rest)
    rw [List.length_cons] at bytes
    omega
  have year : (Scan.number 4 (some 4)).run (sign :: rest) = .error .invalid :=
    Scan.run_number_of_sign noDigit (by decide) (Nat.le_trans (by decide) long)
  have scanned : Scan.exactInstant.run (sign :: rest) = .error .invalid := by
    unfold Scan.exactInstant Scan.exactDate
    rw [Scan.run_bind_ok (StateT.run_get _), if_neg enough]
    dsimp only
    exact Scan.run_bind_error (Scan.run_bind_error year)
  rw [readExact, text, scanned]
  rfl

end BlockMail.Time
