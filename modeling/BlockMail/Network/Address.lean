import BlockMail.Text.Percent
import BlockMail.Text.Split

/-!
# Numeric addresses

The two kinds of numeric network addresses: four decimal numbers with dots
between them, and eight groups in base sixteen with colons between them. Of the
groups one run of zeros may be left out, and the last two may be written as an
address of the other kind.
-/

set_option autoImplicit false

namespace BlockMail.Network

/-! ## Reading -/

/-- The decimal number that a text of any length is, up to a bound. -/
def bounded? (most : Nat) (text : List Char) : Option Nat :=
  let value := text.foldl (fun value digit => value * 10 + (digit.toNat - 48)) 0
  if !text.isEmpty && text.all Char.isDigit && value ≤ most then some value
  else none

/-- One of the four numbers of a short address. It has no leading zero. -/
def octet? (text : List Char) : Option Nat :=
  if text.length = 1 ∨ (text.length ≤ 3 ∧ text.head? ≠ some '0') then
    bounded? 255 text
  else none

/-- The four numbers of a short address. -/
def shortAddress? (text : List Char) : Option (List Nat) :=
  let parts := Text.splitAt '.' text
  if parts.length = 4 then parts.mapM octet? else none

/-- A group of a long address: up to four digits in base sixteen. -/
def group? (text : List Char) : Option Nat :=
  if text.isEmpty ∨ 4 < text.length then none
  else
    text.foldlM
      (fun value char => (Text.hexValue? char).map (value * 16 + ·)) 0

/-- The two groups that the four numbers of a short address amount to. -/
def groupsOfNumbers : List Nat → List Nat
  | high :: low :: rest => (high * 256 + low) :: groupsOfNumbers rest
  | rest => rest

/-- The groups between colons, the last of which is a short address. -/
def groupsBeforeShort? (parts : List (List Char)) : Option (List Nat) := do
  let before ← parts.dropLast.mapM group?
  let numbers ← shortAddress? (parts.getLastD [])
  return before ++ groupsOfNumbers numbers

/-- The groups between colons, if that is what a text is. Where it is allowed the
last two may be a short address. -/
def groups? (shortAtEnd : Bool) (text : List Char) : Option (List Nat) :=
  if text.isEmpty then some []
  else
    let parts := Text.splitAt ':' text
    match parts.mapM group? with
    | some groups => some groups
    | none => if shortAtEnd then groupsBeforeShort? parts else none

/-- The text before and after the first two colons in a row. -/
def splitAtGap? : List Char → Option (List Char × List Char)
  | ':' :: ':' :: rest => some ([], rest)
  | char :: rest =>
      (splitAtGap? rest).map fun (before, after) => (char :: before, after)
  | [] => none

/-- The eight groups of a long address. A gap stands for at least one zero. -/
def longAddress? (text : List Char) : Option (List Nat) :=
  match splitAtGap? text with
  | some (before, after) => do
      let first ← groups? false before
      let last ← groups? true after
      let given := first.length + last.length
      if given ≤ 7 then
        return first ++ List.replicate (8 - given) 0 ++ last
      else none
  | none => do
      let groups ← groups? true text
      if groups.length = 8 then return groups else none

def isLongAddress (text : List Char) : Bool := (longAddress? text).isSome

/-! ## Writing -/

def shortText (numbers : List Nat) : String :=
  ".".intercalate (numbers.map toString)

/-- Groups with colons between them. -/
def groupsText (groups : List Nat) : String :=
  ":".intercalate
    (groups.map fun group => String.ofList (Nat.toDigits 16 group))

/-- The number of zeros that groups begin with. -/
def leadingZeros (groups : List Nat) : Nat :=
  (groups.takeWhile (· == 0)).length

/-- Where the longest run of zeros starts, the first of them if there are more,
and its length. -/
def longestZeros : List Nat → Nat × Nat
  | [] => (0, 0)
  | group :: rest =>
      let (start, length) := longestZeros rest
      let here := leadingZeros (group :: rest)
      if length ≤ here then (0, here) else (start + 1, length)

/-- A long address as written. One that stands for a short address ends in it;
any other leaves out its longest run of zeros, unless that is a single one. -/
def longText (groups : List Nat) : String :=
  match groups with
  | [0, 0, 0, 0, 0, 65535, first, second] =>
      "::ffff:" ++
        shortText [first / 256, first % 256, second / 256, second % 256]
  | _ =>
      let (start, length) := longestZeros groups
      if 1 < length then
        groupsText (groups.take start) ++ "::" ++
          groupsText (groups.drop (start + length))
      else groupsText groups

end BlockMail.Network
