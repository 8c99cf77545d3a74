import Mathlib.Data.List.TakeWhile
import BlockMail.Html.PlainText
import BlockMail.Proofs.Text.Leftmost

/-!
# Tags in a text

Which pieces of a text are tags, and what each leaves behind. Removing tags cuts a text at
its leftmost tags, so that all text between them is kept: a `<` that opens no tag is, and so
is everything behind a `<` whose tag is not closed.
-/

set_option autoImplicit false

namespace BlockMail.Html

open Text

/-! ## Tags and the ends of lines -/

/-- Characters that can be the first of a tag. -/
def OpeningChar (char : Char) : Prop := char.isAlpha = true ∨ char = '/' ∨ char = '!'

/-- Characters of the name of a tag. -/
def NameChar (char : Char) : Prop := char.isAlphanum = true ∨ char = '/'

/-- What a tag has between its angle brackets. -/
structure TagInside (inside : List Char) : Prop where
  opening : ∃ char, inside.head? = some char ∧ OpeningChar char
  unclosed : '>' ∉ inside

/-- Elements that end a line where they are closed. -/
def lineElements : List String := ["p", "div", "li", "h1", "h2", "h3", "h4", "h5", "h6", "tr"]

/-- Names of the tags that end a line. -/
def LineEnd (name : List Char) : Prop :=
  name = "br".toList ∨ name = "br/".toList ∨
    ∃ element ∈ lineElements, name = '/' :: element.toList

/-- The longest name at the front of the inside of a tag ends a line, be it in small letters
or in capitals. -/
def EndsLine (inside : List Char) : Prop :=
  ∃ name rest, inside = name ++ rest ∧ (∀ char ∈ name, NameChar char) ∧
    (∀ char, rest.head? = some char → ¬ NameChar char) ∧ LineEnd (name.map Char.toLower)

/-- Tags, and the text that they leave. -/
inductive TagRule : List Char → List Char → Prop where
  | lineEnd {inside : List Char} :
      TagInside inside → EndsLine inside → TagRule ('<' :: (inside ++ ['>'])) ['\n']
  | other {inside : List Char} :
      TagInside inside → ¬ EndsLine inside → TagRule ('<' :: (inside ++ ['>'])) []

theorem opensTag_eq_true {text : List Char} :
    opensTag text = true ↔ ∃ char, text.head? = some char ∧ OpeningChar char := by
  cases text with
  | nil => simp [opensTag]
  | cons char rest => simp [opensTag, OpeningChar, isLetter, or_assoc]

theorem mem_breakingTags {name : List Char} : name ∈ breakingTags ↔ LineEnd name := by
  simp [breakingTags, LineEnd, lineElements]

theorem takeWhile_append {test : Char → Bool} {name rest : List Char}
    (inside : ∀ char ∈ name, test char = true)
    (ends : ∀ char, rest.head? = some char → test char = false) :
    (name ++ rest).takeWhile test = name := by
  rw [List.takeWhile_append_of_pos inside]
  cases rest with
  | nil => simp
  | cons char rest => simp [ends char rfl]

theorem tagName_mem {inside : List Char} : tagName inside ∈ breakingTags ↔ EndsLine inside := by
  have nameChar (char : Char) :
      (char.isAlphanum || char == '/') = true ↔ NameChar char := by simp [NameChar]
  rw [mem_breakingTags]
  unfold tagName
  constructor
  · intro lineEnd
    refine ⟨_, _, List.takeWhile_append_dropWhile.symm, ?_, ?_, lineEnd⟩
    · intro char member
      have tested := List.mem_takeWhile_imp member
      exact (nameChar char).1 tested
    · intro char front
      have stops := List.head?_dropWhile_not (fun char => char.isAlphanum || char == '/') inside
      rw [front] at stops
      rw [← nameChar, stops]
      exact Bool.false_ne_true
  · rintro ⟨name, rest, rfl, chars, ends, lineEnd⟩
    rw [takeWhile_append]
    · exact lineEnd
    · intro char member
      exact (nameChar char).2 (chars char member)
    · intro char front
      rw [← Bool.not_eq_true, nameChar]
      exact ends char front

theorem tagRule_iff {mark value : List Char} :
    TagRule mark value ↔
      ∃ inside, mark = '<' :: (inside ++ ['>']) ∧ TagInside inside ∧ value = tagText inside := by
  constructor
  · intro rule
    cases rule with
    | lineEnd tag ends => exact ⟨_, rfl, tag, (if_pos (tagName_mem.2 ends)).symm⟩
    | other tag stays => exact ⟨_, rfl, tag, (if_neg (mt tagName_mem.1 stays)).symm⟩
  · rintro ⟨inside, rfl, tag, rfl⟩
    unfold tagText
    split
    · exact .lineEnd tag (tagName_mem.1 ‹_›)
    · exact .other tag (mt tagName_mem.2 ‹_›)

/-! ## Where tags end -/

theorem splitTag?_append {inside : List Char} (unclosed : '>' ∉ inside) (after : List Char) :
    splitTag? (inside ++ '>' :: after) = some (inside, after) := by
  induction inside with
  | nil => rfl
  | cons char inside ih =>
      obtain ⟨other, later⟩ := List.ne_and_not_mem_of_not_mem_cons unclosed
      rw [List.cons_append, splitTag?, ih later]
      · rfl
      · exact Ne.symm other

theorem splitTag?_eq_some {text inside after : List Char} :
    splitTag? text = some (inside, after) ↔ text = inside ++ '>' :: after ∧ '>' ∉ inside := by
  constructor
  · intro found
    fun_induction splitTag? text generalizing inside after with
    | case1 => cases found
    | case2 rest =>
        cases found
        exact ⟨rfl, List.not_mem_nil⟩
    | case3 char rest other ih =>
        obtain ⟨⟨inner, tail⟩, split, equal⟩ := Option.map_eq_some_iff.1 found
        cases equal
        obtain ⟨rfl, unclosed⟩ := ih split
        exact ⟨rfl, List.not_mem_cons_of_ne_of_not_mem (Ne.symm other) unclosed⟩
  · rintro ⟨rfl, unclosed⟩
    exact splitTag?_append unclosed after

theorem tag_append (inside after : List Char) :
    '<' :: (inside ++ ['>']) ++ after = '<' :: (inside ++ '>' :: after) := by
  simp

theorem unambiguous_tagRule : Unambiguous TagRule := by
  constructor
  · intro mark value rule
    obtain ⟨inside, rfl, _⟩ := tagRule_iff.1 rule
    exact List.cons_ne_nil _ _
  · intro mark value other meaning after behind rule another same
    obtain ⟨inside, rfl, tag, rfl⟩ := tagRule_iff.1 rule
    obtain ⟨content, rfl, tagToo, rfl⟩ := tagRule_iff.1 another
    rw [tag_append, tag_append] at same
    have first := splitTag?_append tag.unclosed after
    rw [(List.cons.inj same).2, splitTag?_append tagToo.unclosed behind] at first
    cases first
    exact ⟨rfl, rfl⟩

/-- A tag stands at the front of a text exactly if a `<` does that is followed by a character
that opens a tag, and by a `>` somewhere. -/
theorem begins_tagRule {char : Char} {rest : List Char} :
    Begins TagRule (char :: rest) ↔ char = '<' ∧ opensTag rest = true ∧ '>' ∈ rest := by
  constructor
  · rintro ⟨mark, value, after, rule, same⟩
    obtain ⟨inside, rfl, tag, rfl⟩ := tagRule_iff.1 rule
    rw [tag_append] at same
    cases same
    obtain ⟨first, front, opening⟩ := tag.opening
    refine ⟨rfl, opensTag_eq_true.2 ⟨first, ?_, opening⟩, by simp⟩
    rw [List.head?_append, front]
    rfl
  · rintro ⟨rfl, opens, closed⟩
    obtain ⟨inside, after, rfl, unclosed⟩ := List.eq_append_cons_of_mem closed
    obtain ⟨first, front, opening⟩ := opensTag_eq_true.1 opens
    have tag : TagInside inside := by
      refine ⟨⟨first, ?_, opening⟩, unclosed⟩
      cases inside with
      | nil =>
          -- A `>` is no character that opens a tag.
          cases front
          simp [OpeningChar] at opening
      | cons other inside => exact front
    exact ⟨_, _, after, tagRule_iff.2 ⟨inside, rfl, tag, rfl⟩, (tag_append inside after).symm⟩

/-! ## Removing tags -/

theorem stripTags_of_absent {text : List Char} (absent : '>' ∉ text) : stripTags text = text := by
  fun_induction stripTags text with
  | case1 => rfl
  | case2 char rest opened inside after found ih =>
      rw [(splitTag?_eq_some.1 found).1] at absent
      simp at absent
  | case3 => rfl
  | case4 char rest kept ih => rw [ih (List.not_mem_of_not_mem_cons absent)]

theorem scans_stripTags : Scans TagRule stripTags := by
  constructor
  · rw [stripTags]
  · intro mark value rule after
    obtain ⟨inside, rfl, tag, rfl⟩ := tagRule_iff.1 rule
    have opens : opensTag (inside ++ '>' :: after) = true := by
      have begins : Begins TagRule ('<' :: (inside ++ '>' :: after)) :=
        ⟨_, _, after, rule, (tag_append inside after).symm⟩
      exact (begins_tagRule.1 begins).2.1
    rw [tag_append, stripTags, if_pos ⟨rfl, opens⟩]
    split
    · rename_i found
      rw [splitTag?_append tag.unclosed] at found
      cases found
      rfl
    · rename_i found
      rw [splitTag?_append tag.unclosed] at found
      cases found
  · intro char rest unmarked
    by_cases opened : char = '<' ∧ opensTag rest = true
    · -- The tag is not closed, so nothing behind it is one, either.
      have absent : '>' ∉ rest :=
        fun closed => unmarked (begins_tagRule.2 ⟨opened.1, opened.2, closed⟩)
      have other : char ≠ '>' := by
        rw [opened.1]
        decide
      rw [stripTags_of_absent absent,
        stripTags_of_absent (List.not_mem_cons_of_ne_of_not_mem other.symm absent)]
    · rw [stripTags, if_neg opened]

/-- A text without a `>` behind another closes none of its tags. -/
theorem begins_of_append {text tail : List Char} (absent : '>' ∉ tail) (notEmpty : text ≠ [])
    (begins : Begins TagRule (text ++ tail)) : Begins TagRule text := by
  obtain ⟨char, rest, rfl⟩ := List.exists_cons_of_ne_nil notEmpty
  rw [List.cons_append, begins_tagRule, List.mem_append, or_iff_left absent] at begins
  obtain ⟨rfl, opens, closed⟩ := begins
  refine begins_tagRule.2 ⟨rfl, ?_, closed⟩
  obtain ⟨first, inside, rfl⟩ := List.exists_cons_of_ne_nil (List.ne_nil_of_mem closed)
  exact opens

theorem passed_append {stretch after tail : List Char} (absent : '>' ∉ tail)
    (passed : Text.Passed (Begins TagRule) stretch after) :
    Text.Passed (Begins TagRule) stretch (after ++ tail) := by
  intro late suffix notEmpty begins
  rw [← List.append_assoc] at begins
  exact passed late suffix notEmpty
    (begins_of_append absent (List.append_ne_nil_of_left_ne_nil notEmpty after) begins)

theorem stripTags_append {tail : List Char} (absent : '>' ∉ tail) (before : List Char) :
    stripTags (before ++ tail) = stripTags before ++ tail := by
  obtain ⟨parts, rfl, leftmost⟩ := Parts.exists_leftmostFirst unambiguous_tagRule before
  rw [scans_stripTags.replaced leftmost]
  induction leftmost with
  | @last stretch passed =>
      have kept := scans_stripTags.passed (passed_append absent passed)
      rwa [List.nil_append, stripTags_of_absent absent] at kept
  | @next stretch mark value rest rule passed leftmost ih =>
      have kept := scans_stripTags.passed (passed_append absent passed)
      rw [List.append_assoc, scans_stripTags.mark rule, ih] at kept
      simpa only [Parts.source, Parts.replaced, List.append_assoc] using kept

/-- A text is cut in one way at its leftmost tags, and without its tags it is put together from
that cut: every character outside of the tags is kept, and a tag leaves a line break if it ends
a line and nothing if it does not. No tag is left between two tags, and what follows the last
`>` is kept whole. -/
theorem stripTags_cuts_leftmost_tags (text : List Char) :
    ∃ parts : Parts,
      parts.source = text ∧ parts.LeftmostFirst TagRule ∧
      (∀ other : Parts, other.source = text → other.LeftmostFirst TagRule → other = parts) ∧
      stripTags text = parts.replaced ∧
      (∀ tag ∈ parts.marks, TagRule tag.1 tag.2) ∧
      (∀ stretch ∈ parts.stretches, ∀ mark value, TagRule mark value → ¬ mark <:+: stretch) ∧
      ∀ before tail, text = before ++ tail → '>' ∉ tail →
        stripTags text = stripTags before ++ tail := by
  obtain ⟨parts, rfl, leftmost⟩ := Parts.exists_leftmostFirst unambiguous_tagRule text
  refine ⟨parts, rfl, leftmost, ?_, scans_stripTags.replaced leftmost, leftmost.marked,
    leftmost.not_within unambiguous_tagRule, ?_⟩
  · intro other same another
    exact another.unique unambiguous_tagRule leftmost same
  · intro before tail whole absent
    rw [whole, stripTags_append absent]

/-- Signs that open no tag, tags in capitals and with a blank in them, a tag with a `<` inside,
a name that only begins like one that ends a line, and a tag that is not closed. -/
theorem stripTags_cuts_leftmost_tags_of_note :
    let before := "a <3 b<BR/>c</p ><b <x>y</pre>z ".toList
    let tail := "<br".toList
    let parts : Parts :=
      .next "a <3 b".toList "<BR/>".toList ['\n'] <|
        .next ['c'] "</p >".toList ['\n'] <|
          .next [] "<b <x>".toList [] <|
            .next ['y'] "</pre>".toList [] <|
              .last "z <br".toList
    parts.source = before ++ tail ∧ '>' ∉ tail ∧
      stripTags (before ++ tail) = parts.replaced ∧
      stripTags (before ++ tail) = stripTags before ++ tail := by
  intro before tail parts
  obtain ⟨_, _, _, _, _, _, _, kept⟩ := stripTags_cuts_leftmost_tags (before ++ tail)
  have absent : '>' ∉ tail := by decide
  refine ⟨by decide +kernel, absent, by decide +kernel, kept before tail rfl absent⟩

end BlockMail.Html
