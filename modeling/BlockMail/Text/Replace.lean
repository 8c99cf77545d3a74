import BlockMail.Text.Split

/-!
# Replacing, and lines

Replacement of every occurrence of a pattern from the left, and texts as lines.
-/

set_option autoImplicit false

namespace BlockMail.Text

/-- Replaces from the left, after passing over the first `skip` characters. -/
def replaceFrom (pattern replacement : List Char) :
    (skip : Nat) → List Char → List Char
  | _, [] => []
  | skip + 1, _ :: rest => replaceFrom pattern replacement skip rest
  | 0, char :: rest =>
      if pattern.isPrefixOf (char :: rest) then
        replacement ++ replaceFrom pattern replacement (pattern.length - 1) rest
      else char :: replaceFrom pattern replacement 0 rest

/-- Replaces every occurrence of a pattern, from the left and without looking at
replaced text again. The pattern must not be empty. -/
def replaceAll (pattern replacement text : List Char) : List Char :=
  replaceFrom pattern replacement 0 text

/-- The lines of a text; there is one more than there are line breaks. -/
def splitLines (text : List Char) : List (List Char) := splitAt '\n' text

def joinLines (lines : List (List Char)) : List Char :=
  ['\n'].intercalate lines

end BlockMail.Text
