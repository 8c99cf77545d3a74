import BlockMail.Text.Blank
import BlockMail.Time.Instant

/-!
# Timestamps as text

Instants are written in universal time with `Z` at the end. Two readers exist.
The exact one takes the fixed-width form of RFC 3339. The lenient one also takes
short fields, signed years of any length, blanks between fields, `UTC` for the
offset, and blanks at the end. Both report the first fault from the left; a
field out of its range is reported where it stands, a date that does not exist
only at the end.
-/

set_option autoImplicit false

namespace BlockMail.Time

/-- Why a text is no timestamp. -/
inductive TimestampFault where
  | tooShort
  | tooLong
  | invalid
  | outOfRange
  /-- In universal time the date lies outside of the calendar. -/
  | impossible
deriving DecidableEq

def TimestampFault.message : TimestampFault → String
  | .tooShort => "premature end of input"
  | .tooLong => "trailing input"
  | .invalid => "input contains invalid characters"
  | .outOfRange => "input is out of range"
  | .impossible => "no possible date and time matching input"

/-! ## Writing -/

/-- A number with zeros before it up to a width. -/
def padded (width value : Nat) : String :=
  let digits := (toString value).toList
  String.ofList (List.replicate (width - digits.length) '0' ++ digits)

/-- Four digits, or a sign and at least four digits outside of them. -/
def yearText (year : Int) : String :=
  if 0 ≤ year ∧ year ≤ 9999 then padded 4 year.toNat
  else (if year < 0 then "-" else "+") ++ padded 4 year.natAbs

/-- The shortest of no, three, six and nine digits that is exact. -/
def fractionText (nanos : Nat) : String :=
  if nanos = 0 then ""
  else if nanos % 1000000 = 0 then "." ++ padded 3 (nanos / 1000000)
  else if nanos % 1000 = 0 then "." ++ padded 6 (nanos / 1000)
  else "." ++ padded 9 nanos

namespace Instant

/-- The second as written: a leap second is number 60. -/
def writtenSecond (instant : Instant) : Nat :=
  if instant.nanos < 1000000000 then instant.second else instant.second + 1

/-- The nanoseconds within the written second. -/
def writtenNanos (instant : Instant) : Nat :=
  if instant.nanos < 1000000000 then instant.nanos
  else instant.nanos - 1000000000

/-- Everything before the fraction. -/
def dateAndTime (instant : Instant) : String :=
  yearText instant.date.year ++ "-" ++ padded 2 instant.date.month ++ "-" ++
    padded 2 instant.date.day ++ "T" ++ padded 2 (instant.minute / 60) ++ ":" ++
    padded 2 (instant.minute % 60) ++ ":" ++ padded 2 instant.writtenSecond

/-- The timestamp with the shortest exact fraction. -/
def text (instant : Instant) : String :=
  instant.dateAndTime ++ fractionText instant.writtenNanos ++ "Z"

/-- The timestamp with six fraction digits; what lies below is cut off. -/
def microsText (instant : Instant) : String :=
  instant.dateAndTime ++ "." ++ padded 6 (instant.writtenNanos / 1000) ++ "Z"

end Instant

/-! ## Reading -/

/-- A reader of the front of a text. -/
abbrev Scan (Value : Type) := StateT (List Char) (Except TimestampFault) Value

namespace Scan

/-- How many bytes a text takes. -/
def byteLength (text : List Char) : Nat :=
  text.foldl (fun length char => length + char.utf8Size) 0

/-- Whether a character is one of the ten decimal digits. -/
def isDigit (char : Char) : Bool :=
  decide ('0' ≤ char) && decide (char ≤ '9')

/-- The number that a run of digits denotes, if a 64-bit word holds it. -/
def natural (digits : List Char) : Except TimestampFault Nat :=
  let value := digits.foldl (fun value digit => value * 10 + (digit.toNat - 48)) 0
  if value < Nat.pow 2 63 then .ok value else .error .outOfRange

/-- The leading digits, from `least` of them to `most`; no limit when there is
no `most`. -/
def number (least : Nat) (most : Option Nat) : Scan Nat := do
  let text ← get
  if byteLength text < least then throw .tooShort
  let window := (most.map (text.take ·)).getD text
  let digits := window.takeWhile isDigit
  if digits.length < least then throw .invalid
  set (text.drop digits.length)
  natural digits

/-- A given character. -/
def char (expected : Char) : Scan Unit := do
  match ← get with
  | [] => throw .tooShort
  | found :: rest => if found = expected then set rest else throw .invalid

/-- Any white space. -/
def blanks : Scan Unit := modify Text.trimStart

/-- Checks a field against its range. -/
def within (least most value : Nat) : Scan Nat :=
  if least ≤ value ∧ value ≤ most then pure value else throw .outOfRange

/-- The letter or blank between date and time. -/
def separator : Scan Unit := do
  match ← get with
  | [] => throw .tooShort
  | found :: rest =>
      if found = 't' ∨ found = 'T' ∨ found = ' ' then set rest
      else throw .invalid

/-- A fraction of a second in nanoseconds, if a point opens one. Digits after
the ninth are passed over. -/
def fraction : Scan Nat := do
  match ← get with
  | '.' :: rest =>
      set rest
      let count := ((rest.take 9).takeWhile isDigit).length
      let value ← number 1 (some 9)
      modify (·.dropWhile isDigit)
      return value * Nat.pow 10 (9 - count)
  | _ => return 0

/-- Two characters that must both be there. -/
def twoChars : Scan (Char × Char) := do
  match ← get with
  | first :: second :: rest =>
      set rest
      return (first, second)
  | text => throw (if byteLength text < 2 then .tooShort else .invalid)

/-- The sign of an offset: true for minus. -/
def offsetSign : Scan Bool := do
  match ← get with
  | [] => throw .tooShort
  | '+' :: rest => set rest; return false
  | '-' :: rest => set rest; return true
  | '\u2212' :: rest => set rest; return true
  | _ => throw .invalid

def twoDigits : Scan Nat := do
  let (first, second) ← twoChars
  if isDigit first ∧ isDigit second then natural [first, second]
  else throw .invalid

/-- An offset in minutes: a letter for none, or a sign, hours and minutes with
a divider between them. -/
def offset (divider : Scan Unit) : Scan Int := do
  match ← get with
  | 'Z' :: rest => set rest; return 0
  | 'z' :: rest => set rest; return 0
  | _ =>
      let negative ← offsetSign
      let hours ← twoDigits
      divider
      let minutes ← twoDigits
      let minutes ← within 0 59 minutes
      let total : Int := (hours * 60 + minutes : Nat)
      return if negative then -total else total

/-- The fields of a local time and its offset in minutes. -/
structure Fields where
  year : Int
  month : Nat
  day : Nat
  hour : Nat
  minute : Nat
  second : Nat
  nanos : Nat
  offset : Int

/-- The instant at which a clock on universal time shows a time of day. Second
60 is a leap second. -/
def shownAt (date : Date) (hour minute second nanos : Nat) : Option Instant :=
  if 23 < hour ∨ 59 < minute then none
  else if second = 60 then
    Instant.of? date (hour * 60 + minute) 59 (nanos + 1000000000)
  else Instant.of? date (hour * 60 + minute) second nanos

/-- Whether a clock may run so many minutes ahead: by less than a day. -/
def isOffset (offset : Int) : Bool := offset.natAbs < 1440

/-- The instant at which a clock at an offset in minutes shows what is given as
shown on universal time. -/
def atOffset (shown : Instant) (offset : Int) : Option Instant :=
  if isOffset offset then shown.behind? offset else none

/-- What is found, or a fault. -/
def orFault {Value : Type} (fault : TimestampFault) (found : Option Value) :
    Except TimestampFault Value :=
  match found with
  | some value => .ok value
  | none => .error fault

/-- The instant that fields name, if there is one. -/
def Fields.instant (fields : Fields) : Except TimestampFault Instant := do
  let date ←
    orFault .outOfRange (Date.of? fields.year fields.month fields.day)
  let shown ←
    orFault .outOfRange
      (shownAt date fields.hour fields.minute fields.second fields.nanos)
  if !isOffset fields.offset then throw .outOfRange
  orFault .impossible (shown.behind? fields.offset)

/-- What is found, or the complaint that it is out of range. -/
def inRange {Value : Type} (found : Option Value) : Scan Value :=
  liftM (orFault .outOfRange found)

def dateAndTimeLength : Nat := 19

/-- Two digits of the exact form. -/
def exactField : Scan Nat := number 2 (some 2)

def exactDate : Scan Date := do
  let year ← number 4 (some 4)
  char '-'
  let month ← exactField
  char '-'
  let day ← exactField
  inRange (Date.of? year month day)

/-- The instant of the exact form. It is checked in three parts: the date, the
time of day, and the offset once the whole text is read. -/
def exactInstant : Scan Instant := do
  if byteLength (← get) < dateAndTimeLength then throw .tooShort
  let date ← exactDate
  separator
  let hour ← exactField
  char ':'
  let minute ← exactField
  char ':'
  let second ← exactField
  let nanos ← fraction
  let shown ← inRange (shownAt date hour minute second nanos)
  let offset ← offset (char ':')
  if !(← get).isEmpty then throw .tooLong
  inRange (atOffset shown offset)

/-- A year of the lenient form: up to four digits, or a sign and any number. -/
def lenientYear : Scan Int := do
  blanks
  let year : Int ← do
    match ← get with
    | '-' :: rest => set rest; pure (-((← number 1 none) : Int))
    | '+' :: rest => set rest; pure ((← number 1 none) : Int)
    | _ => pure ((← number 1 (some 4)) : Int)
  let limit : Int := Nat.pow 2 31
  if -limit ≤ year ∧ year < limit then return year else throw .outOfRange

/-- A field of the lenient form after optional blanks. -/
def lenientField (least most : Nat) : Scan Nat := do
  blanks
  within least most (← number 1 (some 2))

/-- A divider of the lenient form after optional blanks. -/
def lenientDivider (expected : Char) : Scan Unit := do
  blanks
  char expected

/-- Any run of colons and blanks. -/
def colonsAndBlanks : Scan Unit :=
  modify (·.dropWhile fun char => char == ':' || Text.isBlank char)

/-- An offset of the lenient form: the letters `UTC` in any case, or an offset. -/
def lenientOffset : Scan Int := do
  match ← get with
  | first :: second :: third :: rest =>
      if first.toLower = 'u' ∧ second.toLower = 't' ∧ third.toLower = 'c' then
        set rest
        return 0
      else offset colonsAndBlanks
  | _ => offset colonsAndBlanks

def lenientFields : Scan Fields := do
  let year ← lenientYear
  lenientDivider '-'
  let month ← lenientField 1 12
  lenientDivider '-'
  let day ← lenientField 1 31
  separator
  let hour ← lenientField 0 23
  lenientDivider ':'
  let minute ← lenientField 0 59
  lenientDivider ':'
  let second ← lenientField 0 60
  let nanos ← fraction
  blanks
  let offset ← lenientOffset
  return ⟨year, month, day, hour, minute, second, nanos, offset⟩

/-- Reads a whole text; what is left of it must be empty. -/
def whole {Value : Type} (scan : Scan Value) (text : List Char) :
    Except TimestampFault Value := do
  let (value, rest) ← scan.run text
  if rest.isEmpty then return value else throw .tooLong

end Scan

/-- The instant that a text of the exact form names. -/
def readExact (text : String) : Except TimestampFault Instant :=
  (Scan.exactInstant.run text.toList).map Prod.fst

/-- The instant that a text of the lenient form names. -/
def readLenient (text : String) : Except TimestampFault Instant := do
  let fields ← Scan.whole (do
    let fields ← Scan.lenientFields
    Scan.blanks
    return fields) text.toList
  fields.instant

end BlockMail.Time
