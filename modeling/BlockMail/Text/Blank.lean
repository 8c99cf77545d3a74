/-!
# Blank characters

The 25 characters of the Unicode property White_Space, and trimming by it.
-/

set_option autoImplicit false

namespace BlockMail.Text

/-- Closed ranges of code points, ascending and apart. -/
def blankRanges : List (Nat × Nat) :=
  [(0x09, 0x0D), (0x20, 0x20), (0x85, 0x85), (0xA0, 0xA0), (0x1680, 0x1680),
    (0x2000, 0x200A), (0x2028, 0x2029), (0x202F, 0x202F), (0x205F, 0x205F),
    (0x3000, 0x3000)]

/-- Whether a character is white space. -/
def isBlank (char : Char) : Bool :=
  blankRanges.any fun range =>
    decide (range.1 ≤ char.toNat) && decide (char.toNat ≤ range.2)

/-- A text without the white space at its front. -/
def trimStart (text : List Char) : List Char := text.dropWhile isBlank

/-- A text without the white space at its end. -/
def trimEnd : List Char → List Char
  | [] => []
  | char :: rest =>
      match trimEnd rest with
      | [] => if isBlank char then [] else [char]
      | kept => char :: kept

/-- A text without the white space at both ends. -/
def trim (text : List Char) : List Char := trimEnd (trimStart text)

/-- Whether a text holds nothing but white space. -/
def allBlank (text : String) : Bool := text.toList.all isBlank

/-- A text without the white space at both ends. -/
def trimmed (text : String) : String := String.ofList (trim text.toList)

end BlockMail.Text
