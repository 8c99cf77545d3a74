/-!
# Splitting text

Text between the occurrences of one character.
-/

set_option autoImplicit false

namespace BlockMail.Text

/-- The parts of a text between the occurrences of a character. There is always
at least one part. -/
def splitAt (divider : Char) : List Char → List (List Char)
  | [] => [[]]
  | char :: rest =>
      if char = divider then [] :: splitAt divider rest
      else
        match splitAt divider rest with
        | [] => [[char]]
        | part :: parts => (char :: part) :: parts

/-- The text before and after the last occurrence of a character. -/
def splitAtLast? (divider : Char) : List Char → Option (List Char × List Char)
  | [] => none
  | char :: rest =>
      match splitAtLast? divider rest with
      | some (before, after) => some (char :: before, after)
      | none => if char = divider then some ([], rest) else none

/-- The text before and after the first occurrence of a character. -/
def splitAtFirst? (divider : Char) : List Char → Option (List Char × List Char)
  | [] => none
  | char :: rest =>
      if char = divider then some ([], rest)
      else
        (splitAtFirst? divider rest).map fun (before, after) =>
          (char :: before, after)

end BlockMail.Text
