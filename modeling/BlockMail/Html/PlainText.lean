import BlockMail.Html.Interpolation
import BlockMail.Template.Block
import BlockMail.Text.Blank
import BlockMail.Text.Replace

/-!
# Plain text

The plain-text form of a mail. Markup is removed, line breaks and the ends of
block elements become line breaks, the common entities are decoded, and the
lines are cleaned up: no blanks at line ends, no blank lines at either end, and
never two of them in a row.
-/

set_option autoImplicit false

namespace BlockMail.Html

/-! ## Tags -/

/-- An ASCII letter. -/
def isLetter (char : Char) : Bool := char.isAlpha

def opensTag : List Char → Bool
  | next :: _ => isLetter next || next == '/' || next == '!'
  | [] => false

/-- The inside of a tag up to the first `>`, and the text after it. -/
def splitTag? : List Char → Option (List Char × List Char)
  | [] => none
  | '>' :: rest => some ([], rest)
  | char :: rest =>
      (splitTag? rest).map fun (inside, after) => (char :: inside, after)

/-- The name of a tag in small letters, with its slashes. -/
def tagName (inside : List Char) : List Char :=
  (inside.takeWhile fun char =>
    char.isAlphanum || char == '/').map Char.toLower

/-- The tags that end a line. -/
def breakingTags : List (List Char) :=
  ["br", "br/", "/p", "/div", "/li", "/h1", "/h2", "/h3", "/h4", "/h5", "/h6",
    "/tr"].map String.toList

def tagText (inside : List Char) : List Char :=
  if tagName inside ∈ breakingTags then ['\n'] else []

theorem length_of_splitTag? {text inside after : List Char}
    (found : splitTag? text = some (inside, after)) :
    after.length < text.length := by
  fun_induction splitTag? text generalizing inside after with
  | case1 => simp at found
  | case2 rest =>
      simp only [Option.some.injEq, Prod.mk.injEq] at found
      simp [← found.2]
  | case3 char rest _ ih =>
      obtain ⟨⟨inner, tail⟩, split, equal⟩ := Option.map_eq_some_iff.1 found
      simp only [Prod.mk.injEq] at equal
      have shorter := ih split
      rw [← equal.2, List.length_cons]
      omega

/-- Removes tags. A `<` that opens no tag is kept, and so is the whole rest of a
text whose last tag is not closed. -/
def stripTags (text : List Char) : List Char :=
  match text with
  | [] => []
  | char :: rest =>
      if char = '<' ∧ opensTag rest then
        match _found : splitTag? rest with
        | some (inside, after) => tagText inside ++ stripTags after
        | none => char :: rest
      else char :: stripTags rest
termination_by text.length
decreasing_by
  · have shorter := length_of_splitTag? _found
    simp only [List.length_cons]
    omega
  · simp

/-! ## Entities -/

/-- The entities that are decoded, in the order in which they are replaced. The
ampersand comes last, so nothing is decoded twice. -/
def entities : List (List Char × Char) :=
  [("&nbsp;".toList, ' '), ("&lt;".toList, '<'), ("&gt;".toList, '>'),
    ("&quot;".toList, '"'), ("&#39;".toList, '\''), ("&copy;".toList, '©'),
    ("&amp;".toList, '&')]

/-- Replaces the entities one after the other. -/
def decodeEntities (text : List Char) : List Char :=
  entities.foldl
    (fun text (entity, char) => Text.replaceAll entity [char] text) text

/-! ## Lines -/

/-- Leaves one of several empty lines in a row. -/
def collapseEmpty : List (List Char) → List (List Char)
  | [] => []
  | [line] => [line]
  | line :: next :: rest =>
      if line.isEmpty && next.isEmpty then collapseEmpty (next :: rest)
      else line :: collapseEmpty (next :: rest)

def dropEmptyEnd (lines : List (List Char)) : List (List Char) :=
  (lines.reverse.dropWhile List.isEmpty).reverse

/-- Lines without blanks at their ends, without empty lines at either end of the
list and without two of them in a row. -/
def tidyLines (lines : List (List Char)) : List (List Char) :=
  dropEmptyEnd
    (collapseEmpty ((lines.map Text.trimEnd).dropWhile List.isEmpty))

def tidy (text : List Char) : List Char :=
  Text.joinLines (tidyLines (Text.splitLines text))

def plainText (html : String) : String :=
  String.ofList (tidy (decodeEntities (stripTags html.toList)))

/-! ## Mails -/

def paragraph? (context : Context) (block : Block) : Option String :=
  let plain (text : String) : String := plainText (interpolate text context)
  match block.content with
  | .header title subtitle =>
      match subtitle.filter fun text => !text.isEmpty with
      | none => some (plain title)
      | some subtitle => some (plain title ++ "\n" ++ plain subtitle)
  | .text content => some (plain content)
  | .image _ alt =>
      (alt.filter fun text => !text.isEmpty).map fun alt => "[" ++ alt ++ "]"
  | .button label url =>
      if url.isEmpty || url == "#" then some (plain label)
      else some (plain label ++ " (" ++ url ++ ")")
  | .spacer => none
  | .footer line => some (plain line)
  | .foreign _ => none

def paragraphs (blocks : List Block) (context : Context) : List String :=
  (blocks.filterMap (paragraph? context)).filter fun text => !text.isEmpty

/-- The plain-text form of a list of blocks: its paragraphs with an empty line
between them. -/
def plainPage (blocks : List Block) (context : Context) : String :=
  "\n\n".intercalate (paragraphs blocks context)

end BlockMail.Html
