import BlockMail.Json.Numeral
import BlockMail.Json.Basic

/-!
# Drafts: JSON text as it was written

A draft is what a reader sees in a text before it asks what the text means.
Repeated names stay apart, numerals and strings without a value are marked, and
the place where the text stops being JSON is a leaf. A decoder that walks a
draft in order therefore meets the first fault first, whichever kind it is, and
may pass over parts it does not need.
-/

set_option autoImplicit false

namespace BlockMail.Json

/-- One value as written. -/
inductive Draft where
  /-- The text is not JSON from here on. -/
  | broken
  | null
  | bool (value : Bool)
  /-- A numeral, without a value when it overflows. -/
  | number (value : Option Number)
  /-- A quoted string, without a value when an escape is a lone surrogate. -/
  | string (value : Option String)
  /-- Items up to the closing bracket or to a broken item. -/
  | array (items : List Draft)
  /-- Members up to the closing brace or to a broken value. -/
  | object (members : List (Option String × Draft))

/-- The blanks between tokens. -/
def isSpace (char : Char) : Bool :=
  char == ' ' || char == '\t' || char == '\n' || char == '\r'

/-- A text without the blanks at its front. -/
def skipSpaces (text : List Char) : List Char := text.dropWhile isSpace

/-- The value of a hexadecimal digit. -/
def hexDigit? (char : Char) : Option Nat :=
  let code := char.toNat
  if 48 ≤ code ∧ code ≤ 57 then some (code - 48)
  else if 65 ≤ code ∧ code ≤ 70 then some (code - 55)
  else if 97 ≤ code ∧ code ≤ 102 then some (code - 87)
  else none

/-- A piece of a quoted string: a character, or a 16-bit unit that an escape
gave by its number. -/
inductive StringPiece where
  | char (value : Char)
  | unit (value : Nat)

/-- The character that a one-letter escape stands for. -/
def shortEscape? : Char → Option Char
  | '"' => some '"'
  | '\\' => some '\\'
  | '/' => some '/'
  | 'b' => some '\x08'
  | 'f' => some '\x0c'
  | 'n' => some '\n'
  | 'r' => some '\r'
  | 't' => some '\t'
  | _ => none

/-- The pieces up to the closing quotation mark and the text after it. Control
characters must be escaped. -/
def readPieces? : List Char → Option (List StringPiece × List Char)
  | [] => none
  | '"' :: rest => some ([], rest)
  | '\\' :: 'u' :: first :: second :: third :: fourth :: rest => do
      let unit := ((← hexDigit? first) * 16 + (← hexDigit? second)) * 256 +
        ((← hexDigit? third) * 16 + (← hexDigit? fourth))
      let (pieces, rest) ← readPieces? rest
      return (.unit unit :: pieces, rest)
  | '\\' :: letter :: rest => do
      let char ← shortEscape? letter
      let (pieces, rest) ← readPieces? rest
      return (.char char :: pieces, rest)
  | char :: rest =>
      if char = '\\' ∨ char.toNat < 32 then none
      else do
        let (pieces, rest) ← readPieces? rest
        return (.char char :: pieces, rest)

/-- The characters that pieces spell. Two units of a surrogate pair make one
character; a surrogate without its partner spells nothing. -/
def spell? : List StringPiece → Option (List Char)
  | [] => some []
  | .char char :: rest => (spell? rest).map (char :: ·)
  | .unit high :: .unit low :: rest =>
      if 0xD800 ≤ high ∧ high < 0xDC00 then
        if 0xDC00 ≤ low ∧ low < 0xE000 then
          let code := 0x10000 + (high - 0xD800) * 0x400 + (low - 0xDC00)
          (spell? rest).map (Char.ofNat code :: ·)
        else none
      else if 0xDC00 ≤ high ∧ high < 0xE000 then none
      else (spell? (.unit low :: rest)).map (Char.ofNat high :: ·)
  | .unit unit :: rest =>
      if 0xD800 ≤ unit ∧ unit < 0xE000 then none
      else (spell? rest).map (Char.ofNat unit :: ·)

/-- The string after an opening quotation mark and the text after it. -/
def readString? (text : List Char) : Option (Option String × List Char) :=
  (readPieces? text).map fun (pieces, rest) =>
    ((spell? pieces).map String.ofList, rest)

def afterWord? (word text : List Char) : Option (List Char) :=
  match word, text with
  | [], text => some text
  | _ :: _, [] => none
  | expected :: word, found :: text =>
      if expected = found then afterWord? word text else none

def readWord (word : List Char) (value : Draft) (text : List Char) :
    Draft × List Char :=
  match afterWord? word text with
  | some rest => (value, rest)
  | none => (.broken, [])

mutual

/-- The value at the front of a text and the text after it. No text is left
after a broken value. The budget bounds the steps; twice the length of the text
suffices. -/
def readValue (budget : Nat) (text : List Char) : Draft × List Char :=
  match budget with
  | 0 => (.broken, [])
  | budget + 1 =>
      match skipSpaces text with
      | [] => (.broken, [])
      | 'n' :: rest => readWord ['u', 'l', 'l'] .null rest
      | 't' :: rest => readWord ['r', 'u', 'e'] (.bool true) rest
      | 'f' :: rest => readWord ['a', 'l', 's', 'e'] (.bool false) rest
      | '"' :: rest =>
          match readString? rest with
          | some (value, rest) => (.string value, rest)
          | none => (.broken, [])
      | '[' :: rest =>
          match skipSpaces rest with
          | ']' :: rest => (.array [], rest)
          | rest =>
              let (items, rest) := readItems budget rest
              (.array items, rest)
      | '\x7b' :: rest =>
          match skipSpaces rest with
          | '\x7d' :: rest => (.object [], rest)
          | rest =>
              let (members, rest) := readMembers budget rest
              (.object members, rest)
      | text =>
          match Numeral.read? text with
          | some (numeral, rest) => (.number numeral.value?, rest)
          | none => (.broken, [])

/-- At least one item, up to the closing bracket. -/
def readItems (budget : Nat) (text : List Char) : List Draft × List Char :=
  match budget with
  | 0 => ([.broken], [])
  | budget + 1 =>
      let (item, rest) := readValue budget text
      match skipSpaces rest with
      | ',' :: rest =>
          let (items, rest) := readItems budget rest
          (item :: items, rest)
      | ']' :: rest => ([item], rest)
      | _ => ([item, .broken], [])

/-- At least one member, up to the closing brace. -/
def readMembers (budget : Nat) (text : List Char) :
    List (Option String × Draft) × List Char :=
  match budget with
  | 0 => ([(none, .broken)], [])
  | budget + 1 =>
      match skipSpaces text with
      | '"' :: rest =>
          match readString? rest with
          | none => ([(none, .broken)], [])
          | some (name, rest) =>
              match skipSpaces rest with
              | ':' :: rest =>
                  let (value, rest) := readValue budget rest
                  match skipSpaces rest with
                  | ',' :: rest =>
                      let (members, rest) := readMembers budget rest
                      ((name, value) :: members, rest)
                  | '\x7d' :: rest => ([(name, value)], rest)
                  | _ => ([(name, value), (none, .broken)], [])
              | _ => ([(name, .broken)], [])
      | _ => ([(none, .broken)], [])

end

namespace Draft

/-- The first value of a text and the text after it. -/
def read (text : String) : Draft × List Char :=
  let chars := text.toList
  readValue (2 * chars.length + 2) chars

mutual

/-- Whether a value can be passed over: its text is JSON, whatever its numerals
and strings stand for and however deep it nests. -/
def wellFormed : Draft → Bool
  | .broken => false
  | .array items => wellFormedItems items
  | .object members => wellFormedMembers members
  | _ => true

/-- Whether every item can be passed over. -/
def wellFormedItems : List Draft → Bool
  | [] => true
  | item :: rest => item.wellFormed && wellFormedItems rest

/-- Whether every member's value can be passed over. -/
def wellFormedMembers : List (Option String × Draft) → Bool
  | [] => true
  | (_, value) :: rest => value.wellFormed && wellFormedMembers rest

end

mutual

/-- The value of a draft, if it has one and nests less deep than `depth`. A
repeated name keeps its first place and takes its last value. -/
def toJson? (depth : Nat) : Draft → Option Json
  | .broken => none
  | .null => some .null
  | .bool value => some (.bool value)
  | .number value => value.map .number
  | .string value => value.map .string
  | .array items =>
      if depth ≤ 1 then none else (itemsToJson? (depth - 1) items).map .array
  | .object members =>
      if depth ≤ 1 then none
      else (membersToJson? (depth - 1) [] members).map .object

def itemsToJson? (depth : Nat) : List Draft → Option (List Json)
  | [] => some []
  | item :: rest => do
      let value ← item.toJson? depth
      let values ← itemsToJson? depth rest
      return value :: values

/-- The values of members, written one after the other over those before. -/
def membersToJson? (depth : Nat) (before : List (String × Json)) :
    List (Option String × Draft) → Option (List (String × Json))
  | [] => some before
  | (name, value) :: rest => do
      let name ← name
      let value ← value.toJson? depth
      membersToJson? depth (Keyed.put name value before) rest

end

end Draft

/-- How deep the arrays and objects of a text may nest: less than this. -/
def nestingLimit : Nat := 128

/-- The value of a text that holds exactly one JSON value which nests less deep
than a given depth. -/
def parseWithin? (depth : Nat) (text : String) : Option Json :=
  let (draft, rest) := Draft.read text
  if (skipSpaces rest).isEmpty then draft.toJson? depth else none

/-- The value of a text that holds exactly one JSON value. -/
def parse? (text : String) : Option Json := parseWithin? nestingLimit text

end BlockMail.Json
