import BlockMail.Network.Address

/-!
# Addresses

Which texts are mail addresses: a local part and a domain, divided by the last
`@`. Only ASCII addresses are admitted, and no part may be too long.
-/

set_option autoImplicit false

namespace BlockMail.Mail

/-- The signs that may stand in an atom beside ASCII letters and digits. -/
def atomSigns : List Char := "!#$%&'*+-/=?^_`\x7b|\x7d~".toList

def isAtomChar (char : Char) : Bool :=
  char.isAlphanum || atomSigns.contains char

/-- A character of ASCII that can be seen. -/
def isVisible (char : Char) : Bool := '!' ≤ char && char ≤ '~'

def isHeaderBlank (char : Char) : Bool := char == ' ' || char == '\t'

/-- A character that stands for itself between quotes. -/
def isQuotedText (char : Char) : Bool :=
  isVisible char && char != '"' && char != '\\'

/-- A character of a domain in brackets. -/
def isLiteralChar (char : Char) : Bool :=
  isVisible char && char != '[' && char != '\\' && char != ']'

/-- Whether a text may stand between the quotes of a local part. -/
def isQuotedContent : List Char → Bool
  | [] => true
  | '\\' :: char :: rest => isVisible char && isQuotedContent rest
  | char :: rest =>
      (isHeaderBlank char || isQuotedText char) && isQuotedContent rest

/-- The text between an opening and a closing character. -/
def enclosed? (opening closing : Char) (text : List Char) :
    Option (List Char) :=
  match text with
  | first :: rest =>
      if first = opening ∧ rest.getLast? = some closing then some rest.dropLast
      else none
  | [] => none

/-- Atoms with dots between them. -/
def isDottedAtoms (text : List Char) : Bool :=
  (Text.splitAt '.' text).all fun atom => !atom.isEmpty && atom.all isAtomChar

def bytes (text : List Char) : Nat := (String.ofList text).utf8ByteSize

/-- A local part has at most 64 bytes; it is quoted or made of atoms. -/
def isLocalPart (text : List Char) : Bool :=
  0 < bytes text && bytes text ≤ 64 &&
    match enclosed? '"' '"' text with
    | some content => !content.isEmpty && isQuotedContent content
    | none => isDottedAtoms text

/-- A label starts and ends with a letter or digit. -/
def isLabel (text : List Char) : Bool :=
  0 < bytes text && bytes text ≤ 63 && text.all isAtomChar &&
    text.head?.any Char.isAlphanum && text.getLast?.any Char.isAlphanum

/-- A domain made of labels. -/
def isNamedDomain (text : List Char) : Bool :=
  bytes text ≤ 254 && (Text.splitAt '.' text).all isLabel

/-- A domain is made of labels, written in brackets, or a numeric address of
eight groups. -/
def isDomain (text : List Char) : Bool :=
  bytes text ≤ 254 &&
    match enclosed? '[' ']' text with
    | some content => content.all isLiteralChar
    | none => isNamedDomain text || Network.isLongAddress text

/-- Whether a text is an address and nothing else. -/
def isAddress (text : String) : Bool :=
  match Text.splitAtLast? '@' text.toList with
  | some (localPart, domain) => isLocalPart localPart && isDomain domain
  | none => false

end BlockMail.Mail
