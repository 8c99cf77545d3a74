import BlockMail.Json.Numeral

/-!
# Numerals as text

The text of a numeral is read as that numeral, up to where it ends.
-/

set_option autoImplicit false

namespace BlockMail.Json

/-- What follows a numeral in a text does not go on with it. -/
def Delimited (rest : List Char) : Prop :=
  ∀ char ∈ rest.head?, isDecimalDigit char = false ∧ char ≠ '.' ∧ char ≠ 'e' ∧ char ≠ 'E'

def AllDigits (chars : List Char) : Prop := ∀ char ∈ chars, isDecimalDigit char = true

theorem takeWhile_digits {digits rest : List Char} (all : AllDigits digits)
    (stops : ∀ char ∈ rest.head?, isDecimalDigit char = false) :
    (digits ++ rest).takeWhile isDecimalDigit = digits ∧
      (digits ++ rest).dropWhile isDecimalDigit = rest := by
  have stopped : rest.takeWhile isDecimalDigit = [] ∧ rest.dropWhile isDecimalDigit = rest := by
    cases rest with
    | nil => exact ⟨rfl, rfl⟩
    | cons char rest =>
        have stop := stops char rfl
        simp [stop]
  rw [List.takeWhile_append_of_pos all, List.dropWhile_append_of_pos all, stopped.1,
    stopped.2, List.append_nil]
  exact ⟨rfl, rfl⟩

namespace Numeral

def exponentChars : Option (Bool × List Char) → List Char
  | none => []
  | some (negative, digits) => 'e' :: (if negative then '-' else '+') :: digits

def fractionChars (fraction : List Char) : List Char :=
  if fraction.isEmpty then [] else '.' :: fraction

def chars (numeral : Numeral) : List Char :=
  (if numeral.negative then ['-'] else []) ++ (numeral.whole ++
    (fractionChars numeral.fraction ++ exponentChars numeral.exponent))

/-- A numeral as the grammar has it. -/
structure Lawful (numeral : Numeral) : Prop where
  whole : AllDigits numeral.whole
  present : numeral.whole ≠ []
  leading : numeral.whole.head? = some '0' → numeral.whole.length = 1
  fraction : AllDigits numeral.fraction
  exponent : ∀ part ∈ numeral.exponent, AllDigits part.2 ∧ part.2 ≠ []

theorem readExponent?_chars {exponent : Option (Bool × List Char)} {rest : List Char}
    (lawful : ∀ part ∈ exponent, AllDigits part.2 ∧ part.2 ≠ []) (after : Delimited rest) :
    readExponent? (exponentChars exponent ++ rest) = some (exponent, rest) := by
  cases exponent with
  | none =>
      cases rest with
      | nil => rfl
      | cons char rest =>
          obtain ⟨_, _, lower, upper⟩ := after char rfl
          simp [exponentChars, readExponent?, lower, upper]
  | some part =>
      obtain ⟨negative, digits⟩ := part
      obtain ⟨all, present⟩ := lawful _ rfl
      obtain ⟨taken, dropped⟩ := takeWhile_digits all fun char head => (after char head).1
      cases negative <;>
        simp [exponentChars, readExponent?, taken, dropped, present]

theorem readFraction?_chars {fraction rest : List Char} (all : AllDigits fraction)
    (after : ∀ char ∈ rest.head?, isDecimalDigit char = false ∧ char ≠ '.') :
    readFraction? (fractionChars fraction ++ rest) = some (fraction, rest) := by
  cases fraction with
  | nil =>
      cases rest with
      | nil => rfl
      | cons char rest =>
          have point := (after char rfl).2
          simp only [fractionChars, List.isEmpty_nil, if_true, List.nil_append]
          unfold readFraction?
          split
          · simp_all
          · rfl
  | cons digit fraction =>
      obtain ⟨taken, dropped⟩ := takeWhile_digits all fun char head => (after char head).1
      simp only [fractionChars, List.isEmpty_cons, Bool.false_eq_true, if_false, readFraction?,
        List.cons_append] at taken dropped ⊢
      rw [taken, dropped]
      rfl

theorem head_exponentChars (exponent : Option (Bool × List Char)) {rest : List Char}
    (after : Delimited rest) :
    ∀ char ∈ (exponentChars exponent ++ rest).head?,
      isDecimalDigit char = false ∧ char ≠ '.' := by
  cases exponent with
  | none => exact fun char head => ⟨(after char head).1, (after char head).2.1⟩
  | some part =>
      rintro char ⟨⟩
      exact ⟨by decide, by decide⟩

theorem head_fractionChars (fraction : List Char) {rest : List Char}
    (after : ∀ char ∈ rest.head?, isDecimalDigit char = false ∧ char ≠ '.') :
    ∀ char ∈ (fractionChars fraction ++ rest).head?, isDecimalDigit char = false := by
  cases fraction with
  | nil => exact fun char head => (after char head).1
  | cons digit fraction =>
      rintro char ⟨⟩
      decide

/-- A numeral is read back from its text. -/
theorem read?_chars {numeral : Numeral} (lawful : numeral.Lawful) {rest : List Char}
    (after : Delimited rest) : read? (numeral.chars ++ rest) = some (numeral, rest) := by
  obtain ⟨negative, whole, fraction, exponent⟩ := numeral
  obtain ⟨all, present, leading, allFraction, lawfulExponent⟩ := lawful
  have second := head_exponentChars exponent after
  have first := head_fractionChars fraction second
  obtain ⟨taken, dropped⟩ := takeWhile_digits all first
  have fractionRead := readFraction?_chars allFraction second
  have exponentRead := readExponent?_chars lawfulExponent after
  cases whole with
  | nil => exact absurd rfl present
  | cons digit whole =>
      have notMinus : digit ≠ '-' := by
        rintro rfl
        exact absurd (all '-' (by simp)) (by decide)
      have alone : digit = '0' → whole = [] := by
        rintro rfl
        simpa using leading rfl
      cases negative with
      | false =>
          simp only [chars, List.append_assoc, List.cons_append, Bool.false_eq_true, if_false,
            List.nil_append] at taken dropped ⊢
          unfold read?
          split
          simp_all
      | true =>
          simp only [chars, List.append_assoc, List.cons_append, if_true,
            List.nil_append] at taken dropped ⊢
          unfold read?
          split
          simp_all

end Numeral

end BlockMail.Json
