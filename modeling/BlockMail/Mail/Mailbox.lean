import BlockMail.Mail.Address
import BlockMail.Text.Blank

/-!
# Mailboxes

A mailbox is an address, an address between angle brackets, or a name followed
by one. A name is made of words and dots, of which a word is the first; a run of
blanks between them counts as one blank. Domains that are numeric addresses of
eight groups or stand in brackets do not occur in mailboxes.
-/

set_option autoImplicit false

namespace BlockMail.Mail

/-- Where mail comes from or goes to. -/
structure Mailbox where
  name : Option String
  localPart : String
  domain : String
deriving DecidableEq

/-! ## Names -/

/-- A character of a word that is not quoted. -/
def isWordChar (char : Char) : Bool := isAtomChar char || 128 ≤ char.toNat

/-- A character that stands for itself in a quoted word. -/
def isQuotedWordChar (char : Char) : Bool :=
  isQuotedText char || 128 ≤ char.toNat ||
    (char.toNat < 32 || char.toNat == 127) &&
      !(['\x00', '\t', '\n', '\r'].contains char)

/-- A character that may stand behind a backslash in a quoted word. -/
def isEscapable (char : Char) : Bool :=
  char.toNat < 128 && !(['\x00', '\n', '\r'].contains char)

/-- What was read, with a character in front, and with a blank before it if blanks
were read before the character. -/
def withFront (blank : Bool) (char : Char) (read : List Char × List Char) :
    List Char × List Char :=
  ((if blank then [' ', char] else [char]) ++ read.1, read.2)

/-- The content of a quoted word whose opening quote was read, and the text
behind its closing quote. `blank` says that blanks were just read, which count
only when something of the word follows. -/
def readQuoted (blank : Bool) : List Char → Option (List Char × List Char)
  | '"' :: rest => some ([], rest)
  | '\\' :: char :: rest =>
      if isEscapable char then (readQuoted false rest).map (withFront blank char)
      else none
  | char :: rest =>
      if isHeaderBlank char then readQuoted true rest
      else if isQuotedWordChar char then
        (readQuoted false rest).map (withFront blank char)
      else none
  | [] => none

/-- What is left behind a quoted word is shorter than the text. -/
theorem length_of_readQuoted {blank : Bool} {text content rest : List Char}
    (read : readQuoted blank text = some (content, rest)) :
    rest.length < text.length := by
  fun_induction readQuoted blank text generalizing content rest with
  | case1 => simp_all
  | case2 _ _ _ _ ih =>
      obtain ⟨⟨before, after⟩, found, same⟩ := Option.map_eq_some_iff.1 read
      have shorter := ih found
      obtain ⟨_, rfl⟩ := Prod.mk.inj same
      simp only [List.length_cons]
      omega
  | case3 => simp at read
  | case4 _ _ _ _ _ _ ih =>
      have shorter := ih read
      simp only [List.length_cons]
      omega
  | case5 _ _ _ _ _ _ _ ih =>
      obtain ⟨⟨before, after⟩, found, same⟩ := Option.map_eq_some_iff.1 read
      have shorter := ih found
      obtain ⟨_, rfl⟩ := Prod.mk.inj same
      simp only [List.length_cons]
      omega
  | case6 => simp at read
  | case7 => simp at read

/-- Reads words and dots with blanks between them. A run of blanks becomes one
blank, unless nothing follows it. -/
def readWords : List Char → Option (List Char)
  | [] => some []
  | char :: rest =>
      if isHeaderBlank char then
        let after := rest.dropWhile isHeaderBlank
        (readWords after).map (if after.isEmpty then id else (' ' :: ·))
      else if char = '"' then
        match _read : readQuoted false rest with
        | some (content, after) => (readWords after).map (content ++ ·)
        | none => none
      else if isWordChar char || char == '.' then
        (readWords rest).map (char :: ·)
      else none
termination_by text => text.length
decreasing_by
  · have shorter := (List.dropWhile_sublist isHeaderBlank (l := rest)).length_le
    simp only [List.length_cons]
    omega
  · have shorter := length_of_readQuoted _read
    simp only [List.length_cons]
    omega
  · simp

/-- Reads a name, which starts with a word. -/
def readName (text : List Char) : Option (List Char) :=
  if text.head?.any fun char => isWordChar char || char == '"' then
    readWords text
  else none

/-! ## Reading and writing -/

/-- A text without the blanks of a header line at its front. -/
def dropBlanks (text : List Char) : List Char := text.dropWhile isHeaderBlank

/-- The local part that a mailbox names: quotes around it are dropped. -/
def readLocalPart (text : List Char) : Option (List Char) :=
  match text with
  | '"' :: rest =>
      match readQuoted false rest with
      | some (content, []) => if isLocalPart content then some content else none
      | _ => none
  | _ => if isLocalPart text then some text else none

/-- The mailbox of a name and an address. Blanks may stand before either part of
the address. -/
def mailboxOf? (name : Option String) (address : List Char) : Option Mailbox := do
  let (before, after) ← Text.splitAtLast? '@' address
  let localPart ← readLocalPart (dropBlanks before)
  let domain := dropBlanks after
  if isNamedDomain domain then
    return ⟨name, String.ofList localPart, String.ofList domain⟩
  else none

/-- The mailbox of the text before and between angle brackets. -/
def ofNameAndAddress? (before address : List Char) : Option Mailbox :=
  match dropBlanks before with
  | [] => mailboxOf? none address
  | written => do
      let name ← readName written
      mailboxOf? (some (String.ofList name)) address

def Mailbox.ofText? (text : String) : Option Mailbox :=
  let trimmed := Text.trim text.toList
  if trimmed.getLast? = some '>' then
    match Text.splitAtLast? '<' trimmed.dropLast with
    | some (before, address) => ofNameAndAddress? before address
    | none => none
  else mailboxOf? none trimmed

/-- A character that needs no quotes in a name. A nine is not among the digits
that do without. -/
def isPlainNameChar (char : Char) : Bool :=
  (isWordChar char && char != '9') || isHeaderBlank char

/-- A character of a name between quotes. -/
def quotedNameChar (char : Char) : List Char :=
  if isQuotedWordChar char || isHeaderBlank char then [char] else ['\\', char]

/-- A name as written in a header. -/
def nameText (name : String) : String :=
  if name.toList.all isPlainNameChar then name
  else "\"" ++ String.ofList (name.toList.flatMap quotedNameChar) ++ "\""

namespace Mailbox

def address (mailbox : Mailbox) : String :=
  mailbox.localPart ++ "@" ++ mailbox.domain

/-- The mailbox as written in a header. -/
def text (mailbox : Mailbox) : String :=
  match (mailbox.name.map Text.trimmed).filter fun name => !name.isEmpty with
  | some name => nameText name ++ " <" ++ mailbox.address ++ ">"
  | none => mailbox.address

end Mailbox

end BlockMail.Mail
