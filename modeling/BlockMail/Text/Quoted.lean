import BlockMail.Text.Invisible

/-!
# Quoted text in messages

A text between quotation marks, as messages show values and paths. Quotation
marks, backslashes and the common control characters get a one-letter escape;
any other character without a glyph of its own is written by its number.
-/

set_option autoImplicit false

namespace BlockMail.Text

/-- The digits of a code point in base sixteen, in lower case. -/
def hexDigits (code : Nat) : List Char := Nat.toDigits 16 code

/-- One character inside quotation marks. Whether an apostrophe is escaped
depends on what is quoted. -/
def quotedChar (apostrophes : Bool) (char : Char) : List Char :=
  match char with
  | '\x00' => ['\\', '0']
  | '\t' => ['\\', 't']
  | '\n' => ['\\', 'n']
  | '\r' => ['\\', 'r']
  | '"' => ['\\', '"']
  | '\\' => ['\\', '\\']
  | '\'' => if apostrophes then ['\\', '\''] else ['\'']
  | other =>
      if isInvisible other then
        '\\' :: 'u' :: '\x7b' :: hexDigits other.toNat ++ ['\x7d']
      else [other]

/-- A value between quotation marks. -/
def quoted (text : String) : String :=
  "\"" ++ String.ofList (text.toList.flatMap (quotedChar false)) ++ "\""

/-- A path between quotation marks. Apostrophes are escaped, too. -/
def quotedPath (path : String) : String :=
  "\"" ++ String.ofList (path.toList.flatMap (quotedChar true)) ++ "\""

end BlockMail.Text
