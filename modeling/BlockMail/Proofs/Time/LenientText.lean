import Mathlib.Algebra.Group.Int.Defs
import BlockMail.Proofs.Time.Timestamps

/-!
# Timestamps with the shortest fraction

What is written with the shortest exact fraction, the lenient reader takes for the same
instant, whatever its year: leap seconds and years of more than four digits come back too.
-/

set_option autoImplicit false

namespace BlockMail.Time

namespace Scan

/-- All the digits at the front. -/
theorem run_number_all {least value : Nat} {digits rest : List Char}
    (all : ∀ char ∈ digits, isDigit char = true) (enough : least ≤ digits.length)
    (stops : ∀ char ∈ rest.head?, isDigit char = false)
    (denotes : natural digits = .ok value) :
    (number least none).run (digits ++ rest) = .ok (value, rest) := by
  refine run_number_of_window ?_ enough denotes
  rw [Option.map_none, Option.getD_none, List.takeWhile_append_of_pos all]
  cases rest with
  | nil => simp
  | cons char rest => simp [stops char (by simp)]

theorem isBlank_of_isDigit {char : Char} (digit : isDigit char = true) :
    Text.isBlank char = false := by
  obtain ⟨above, below⟩ := digit_bounds digit
  simp only [Text.isBlank, Text.blankRanges, List.any_cons, List.any_nil, Bool.or_false,
    Bool.or_eq_false_iff, Bool.and_eq_false_iff, decide_eq_false_iff_not]
  omega

theorem run_blanks {char : Char} (visible : Text.isBlank char = false) (rest : List Char) :
    blanks.run (char :: rest) = .ok ((), char :: rest) := by
  have kept : Text.trimStart (char :: rest) = char :: rest := by
    simp [Text.trimStart, visible]
  change Except.ok ((), Text.trimStart (char :: rest)) = _
  rw [kept]

theorem run_within {least most value : Nat} (above : least ≤ value) (below : value ≤ most)
    (rest : List Char) : (within least most value).run rest = .ok (value, rest) := by
  unfold within
  rw [if_pos ⟨above, below⟩]
  rfl

theorem run_lenientDivider {expected : Char} (visible : Text.isBlank expected = false)
    (rest : List Char) : (lenientDivider expected).run (expected :: rest) = .ok ((), rest) := by
  unfold lenientDivider
  rw [run_bind_ok (run_blanks visible _)]
  exact run_char expected rest

/-- A padded number starts with a digit. -/
theorem head_padded (width value : Nat) :
    ∃ char rest, (padded width value).toList = char :: rest ∧ isDigit char = true := by
  cases digits : (padded width value).toList with
  | nil =>
      have short := congrArg List.length digits
      have some := Nat.length_toDigits_pos (b := 10) (n := value)
      rw [padded_toList, List.length_append] at short
      simp at short
  | cons char rest =>
      exact ⟨char, rest, rfl, isDigit_of_mem_padded (by rw [digits]; exact List.mem_cons_self)⟩

theorem run_blanks_padded (width value : Nat) (rest : List Char) :
    blanks.run ((padded width value).toList ++ rest) =
      .ok ((), (padded width value).toList ++ rest) := by
  obtain ⟨char, others, digits, digit⟩ := head_padded width value
  rw [digits]
  exact run_blanks (isBlank_of_isDigit digit) _

theorem run_lenientField {least most value : Nat} (above : least ≤ value) (below : value ≤ most)
    (fits : value < 10 ^ 2) (rest : List Char) :
    (lenientField least most).run ((padded 2 value).toList ++ rest) = .ok (value, rest) := by
  unfold lenientField
  rw [run_bind_ok (run_blanks_padded 2 value rest),
    run_bind_ok (run_padded_of_le (by decide) (by decide) (by decide) fits rest)]
  exact run_within above below rest

/-- A year of four digits, or a longer or negative one behind its sign. -/
theorem run_lenientYear {year : Int} (early : -(2 ^ 31 : Int) ≤ year) (late : year < 2 ^ 31)
    (rest : List Char) :
    lenientYear.run ((yearText year).toList ++ '-' :: rest) = .ok (year, '-' :: rest) := by
  have within : -((Nat.pow 2 31 : Nat) : Int) ≤ year ∧ year < (Nat.pow 2 31 : Nat) :=
    ⟨early, late⟩
  obtain ⟨char, others, digits, digit⟩ := head_padded 4 year.natAbs
  unfold yearText
  by_cases plain : 0 ≤ year ∧ year ≤ 9999
  · have same : ((year.natAbs : Nat) : Int) = year := Int.natAbs_of_nonneg plain.1
    have scanned : (number 1 (some 4)).run ((padded 4 year.natAbs).toList ++ '-' :: rest) =
        .ok (year.natAbs, '-' :: rest) :=
      run_padded_of_le (by decide) (by decide) (by decide) (by omega) ('-' :: rest)
    rw [if_pos plain, show year.toNat = year.natAbs by omega]
    unfold lenientYear
    rw [run_bind_ok (run_blanks_padded 4 _ _), run_bind_ok (StateT.run_get _)]
    dsimp only
    split
    · rename_i signed
      rw [digits] at signed
      cases signed
      cases digit
    · rename_i signed
      rw [digits] at signed
      cases signed
      cases digit
    · rw [run_bind_ok scanned]
      simp only [same, pure_bind, if_pos within]
      rfl
  · have scanned : (number 1 none).run ((padded 4 year.natAbs).toList ++ '-' :: rest) =
        .ok (year.natAbs, '-' :: rest) :=
      run_number_all (fun _ => isDigit_of_mem_padded) (by simp [digits]) (by simp [isDigit])
        (natural_padded (by omega))
    rw [if_neg plain]
    by_cases negative : year < 0
    · have same : -((year.natAbs : Nat) : Int) = year := by omega
      have signed : ("-" ++ padded 4 year.natAbs).toList ++ '-' :: rest =
          '-' :: ((padded 4 year.natAbs).toList ++ '-' :: rest) := by simp
      rw [if_pos negative, signed]
      unfold lenientYear
      rw [run_bind_ok (run_blanks (by decide) _), run_bind_ok (StateT.run_get _)]
      simp only []
      rw [run_bind_ok (StateT.run_set _ _), run_bind_ok scanned]
      simp only [same, pure_bind, if_pos within]
      rfl
    · have same : ((year.natAbs : Nat) : Int) = year := by omega
      have signed : ("+" ++ padded 4 year.natAbs).toList ++ '-' :: rest =
          '+' :: ((padded 4 year.natAbs).toList ++ '-' :: rest) := by simp
      rw [if_neg negative, signed]
      unfold lenientYear
      rw [run_bind_ok (run_blanks (by decide) _), run_bind_ok (StateT.run_get _)]
      simp only []
      rw [run_bind_ok (StateT.run_set _ _), run_bind_ok scanned]
      simp only [same, pure_bind, if_pos within]
      rfl

theorem run_fractionText {nanos : Nat} (fits : nanos < 10 ^ 9) :
    fraction.run ((fractionText nanos).toList ++ ['Z']) = .ok (nanos, ['Z']) := by
  have written (width value : Nat) : ("." ++ padded width value).toList ++ ['Z'] =
      '.' :: ((padded width value).toList ++ ['Z']) := by simp
  unfold fractionText
  by_cases none : nanos = 0
  · subst none
    rfl
  rw [if_neg none]
  by_cases millis : nanos % 1000000 = 0
  · rw [if_pos millis, written, run_fraction (by decide) (by decide) (by omega)]
    congr 2
    omega
  rw [if_neg millis]
  by_cases micros : nanos % 1000 = 0
  · rw [if_pos micros, written, run_fraction (by decide) (by decide) (by omega)]
    congr 2
    omega
  · rw [if_neg micros, written, run_fraction (by decide) (by decide) fits]
    congr 2
    omega

end Scan

namespace Instant

theorem text_toList (instant : Instant) :
    instant.text.toList =
      (yearText instant.date.year).toList ++ '-' ::
        ((padded 2 instant.date.month).toList ++ '-' ::
          ((padded 2 instant.date.day).toList ++ 'T' ::
            ((padded 2 (instant.minute / 60)).toList ++ ':' ::
              ((padded 2 (instant.minute % 60)).toList ++ ':' ::
                ((padded 2 instant.writtenSecond).toList ++
                  ((fractionText instant.writtenNanos).toList ++ ['Z'])))))) := by
  simp [text, dateAndTime]

/-- The fields as they are written, on universal time. -/
def writtenFields (instant : Instant) : Scan.Fields :=
  ⟨instant.date.year, instant.date.month, instant.date.day, instant.minute / 60,
    instant.minute % 60, instant.writtenSecond, instant.writtenNanos, 0⟩

theorem instant_writtenFields (instant : Instant) :
    instant.writtenFields.instant = .ok instant := by
  have date : Date.of? instant.date.year instant.date.month instant.date.day =
      some instant.date := by
    simp [Date.of?, instant.date.valid]
  unfold writtenFields Scan.Fields.instant
  simp only [date, Scan.orFault, bind, Except.bind, instant.shownAt_written]
  rw [instant.behind?_zero]
  rfl

theorem run_lenientFields (instant : Instant) :
    Scan.lenientFields.run instant.text.toList = .ok (instant.writtenFields, []) := by
  obtain ⟨minute, _, _, _⟩ := instant.valid
  obtain ⟨early, late, monthLeast, monthMost, dayLeast, dayFits⟩ := instant.date.valid
  have short := daysInMonth_le instant.date.year instant.date.month
  have seconds := instant.writtenSecond_le
  rw [text_toList]
  unfold Scan.lenientFields
  rw [Scan.run_bind_ok (Scan.run_lenientYear (by omega) (by omega) _),
    Scan.run_bind_ok (Scan.run_lenientDivider (by decide) _),
    Scan.run_bind_ok (Scan.run_lenientField monthLeast monthMost (by omega) _),
    Scan.run_bind_ok (Scan.run_lenientDivider (by decide) _),
    Scan.run_bind_ok (Scan.run_lenientField dayLeast (by omega) (by omega) _),
    Scan.run_bind_ok (Scan.run_separator _),
    Scan.run_bind_ok (Scan.run_lenientField (Nat.zero_le _) (by omega) (by omega) _),
    Scan.run_bind_ok (Scan.run_lenientDivider (by decide) _),
    Scan.run_bind_ok (Scan.run_lenientField (Nat.zero_le _) (by omega) (by omega) _),
    Scan.run_bind_ok (Scan.run_lenientDivider (by decide) _),
    Scan.run_bind_ok (Scan.run_lenientField (Nat.zero_le _) (by omega) (by omega) _),
    Scan.run_bind_ok (Scan.run_fractionText instant.writtenNanos_lt),
    Scan.run_bind_ok (Scan.run_blanks (by decide) _)]
  rfl

end Instant

/-- The text of an instant is read as that instant. -/
theorem readLenient_text (instant : Instant) : readLenient instant.text = .ok instant := by
  have scanned : Scan.whole (do
      let fields ← Scan.lenientFields
      Scan.blanks
      return fields) instant.text.toList = .ok instant.writtenFields := by
    unfold Scan.whole
    rw [Scan.run_bind_ok instant.run_lenientFields]
    rfl
  unfold readLenient
  rw [scanned]
  exact instant.instant_writtenFields

end BlockMail.Time
