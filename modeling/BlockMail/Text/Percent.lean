/-!
# Percent encoding

Bytes written as a percent sign with two digits in base sixteen. A percent sign
that is not followed by two such digits stands for itself.
-/

set_option autoImplicit false

namespace BlockMail.Text

/-- The value of a digit in base sixteen. -/
def hexValue? (char : Char) : Option Nat :=
  if '0' ≤ char ∧ char ≤ '9' then some (char.toNat - '0'.toNat)
  else if 'a' ≤ char ∧ char ≤ 'f' then some (char.toNat - 'a'.toNat + 10)
  else if 'A' ≤ char ∧ char ≤ 'F' then some (char.toNat - 'A'.toNat + 10)
  else none

/-- The byte of two digits in base sixteen. -/
def hexByte? (high low : Char) : Option UInt8 := do
  return UInt8.ofNat ((← hexValue? high) * 16 + (← hexValue? low))

/-- The bytes of a text in UTF-8. -/
def utf8Bytes (text : List Char) : List UInt8 :=
  (String.ofList text).toUTF8.toList

/-- The bytes that a text stands for. -/
def percentDecoded : List Char → List UInt8
  | '%' :: high :: low :: rest =>
      match hexByte? high low with
      | some byte => byte :: percentDecoded rest
      | none => '%'.toUInt8 :: percentDecoded (high :: low :: rest)
  | char :: rest => utf8Bytes [char] ++ percentDecoded rest
  | [] => []

/-- The text that bytes are in UTF-8, if they are one. -/
def ofUtf8? (bytes : List UInt8) : Option String :=
  String.fromUTF8? ⟨bytes.toArray⟩

end BlockMail.Text
