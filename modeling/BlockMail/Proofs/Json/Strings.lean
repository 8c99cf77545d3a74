import BlockMail.Json.Draft
import BlockMail.Json.Writer

/-!
# Strings read back

A quoted text is read as the text that was quoted, escapes and all.
-/

set_option autoImplicit false

namespace BlockMail.Json

theorem hexDigit?_hexDigit : ∀ digit < 16, hexDigit? (hexDigit digit) = some digit := by
  decide

/-- How a character that is written inside a string is read. -/
def pieceOf (char : Char) : StringPiece :=
  match char with
  | '"' | '\\' | '\n' | '\r' | '\t' | '\x08' | '\x0c' => .char char
  | other => if other.toNat < 32 then .unit other.toNat else .char other

theorem readPieces?_plain {char : Char} (notQuote : char ≠ '"') (notBackslash : char ≠ '\\')
    (visible : ¬ char.toNat < 32) (rest : List Char) :
    readPieces? (char :: rest) =
      (readPieces? rest).map fun (pieces, rest) => (.char char :: pieces, rest) := by
  rw [readPieces?.eq_def]
  split
  case h_5 found =>
    cases found
    rw [if_neg (by simp [notBackslash, visible])]
    cases readPieces? rest <;> rfl
  all_goals simp_all

theorem readPieces?_short {letter char : Char} (notNumber : letter ≠ 'u')
    (short : shortEscape? letter = some char) (rest : List Char) :
    readPieces? ('\\' :: letter :: rest) =
      (readPieces? rest).map fun (pieces, rest) => (.char char :: pieces, rest) := by
  have other : ∀ first second third fourth others, letter = 'u' →
      rest = first :: second :: third :: fourth :: others → False :=
    fun _ _ _ _ _ number => absurd number notNumber
  rw [readPieces?.eq_4 letter rest other, short]
  cases readPieces? rest <;> rfl

theorem readPieces?_escapeChar (char : Char) (rest : List Char) :
    readPieces? (escapeChar char ++ rest) =
      (readPieces? rest).map fun (pieces, rest) => (pieceOf char :: pieces, rest) := by
  unfold escapeChar
  split
  case h_8 notQuote notBackslash _ _ _ _ _ =>
    split
    · rename_i control
      have high := hexDigit?_hexDigit (char.toNat / 16) (by omega)
      have low := hexDigit?_hexDigit (char.toNat % 16) (by omega)
      have zero : hexDigit? '0' = some 0 := by decide
      have unit : char.toNat / 16 * 16 + char.toNat % 16 = char.toNat := by omega
      have piece : pieceOf char = .unit char.toNat := by
        unfold pieceOf
        split <;> simp_all
      simp only [List.cons_append, List.nil_append, readPieces?, zero, high, low, piece]
      cases readPieces? rest <;> simp [unit]
    · rename_i visible
      have piece : pieceOf char = .char char := by
        unfold pieceOf
        split <;> simp_all
      rw [List.singleton_append, readPieces?_plain notQuote notBackslash visible, piece]
  all_goals exact readPieces?_short (by decide) rfl rest

theorem spell?_unit {code : Nat} (low : code < 0xD800) (rest : List StringPiece) :
    spell? (.unit code :: rest) = (spell? rest).map (Char.ofNat code :: ·) := by
  have notHigh : ¬ 0xD800 ≤ code := by omega
  have notLow : ¬ 0xDC00 ≤ code := by omega
  cases rest with
  | nil => simp [spell?, notHigh]
  | cons piece rest =>
      cases piece with
      | char => simp [spell?, notHigh]
      | unit => simp [spell?, notHigh, notLow]

theorem spell?_pieceOf (char : Char) (rest : List StringPiece) :
    spell? (pieceOf char :: rest) = (spell? rest).map (char :: ·) := by
  unfold pieceOf
  split
  case h_8 =>
    split
    · rw [spell?_unit (by omega), Char.ofNat_toNat]
    · rfl
  all_goals rfl

theorem readPieces?_flatMap (chars rest : List Char) :
    readPieces? (chars.flatMap escapeChar ++ '"' :: rest) =
      some (chars.map pieceOf, rest) := by
  induction chars with
  | nil => rfl
  | cons char chars ih =>
      rw [List.flatMap_cons, List.append_assoc, readPieces?_escapeChar, ih]
      rfl

theorem spell?_map (chars : List Char) : spell? (chars.map pieceOf) = some chars := by
  induction chars with
  | nil => rfl
  | cons char chars ih =>
      rw [List.map_cons, spell?_pieceOf, ih]
      rfl

/-- A quoted text, after its opening quotation mark, is read back as it was. -/
theorem readString?_quote (text : String) (rest : List Char) :
    readString? (text.toList.flatMap escapeChar ++ '"' :: rest) = some (some text, rest) := by
  simp only [readString?, readPieces?_flatMap, Option.map_some, spell?_map, String.ofList_toList]

end BlockMail.Json
