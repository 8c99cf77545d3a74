import BlockMail.Proofs.Html.TidyText

/-!
# Paragraphs of a plain mail

Paragraphs that are put together with one empty line between them are tidy exactly if each
of them is. A paragraph of words alone is, but for a header: its title and its subtitle stand
on lines of their own whenever a subtitle is written, even if one of them comes out empty.
-/

set_option autoImplicit false

namespace BlockMail

open Html Text

namespace Block

/-- Not an image or a button, whose addresses and alternative texts are shown as they are. -/
def Wordy (block : Block) : Prop :=
  block.kind? ≠ some .image ∧ block.kind? ≠ some .button

/-- If a header has a subtitle, there is something to show of both its title and its
subtitle. -/
def FillsLines (block : Block) (context : Context) : Prop :=
  ∀ title subtitle, block.content = .header title (some subtitle) → subtitle ≠ "" →
    plainText (interpolate title context) ≠ "" ∧ plainText (interpolate subtitle context) ≠ ""

end Block

namespace Html

/-! ## Tidy lines put together -/

theorem intercalate_ne_nil {Element : Type} (divider : List Element) {first : List Element}
    (notEmpty : first ≠ []) (rest : List (List Element)) :
    divider.intercalate (first :: rest) ≠ [] := by
  cases rest <;> simp [List.intercalate_cons_cons, notEmpty]

namespace TidyLines

variable {lines others : List (List Char)}

theorem append (first : TidyLines lines) (second : TidyLines others) :
    TidyLines (lines ++ others) := by
  constructor
  · intro line member
    rcases List.mem_append.1 member with inside | later
    · exact first.trimmed line inside
    · exact second.trimmed line later
  · refine List.isChain_append.2 ⟨first.single, second.single, ?_⟩
    intro line last next _
    exact .inl (first.ends line last)
  · intro line front
    rw [List.head?_append, Option.or_eq_some_iff] at front
    rcases front with inside | ⟨_, later⟩
    · exact first.starts line inside
    · exact second.starts line later
  · intro line last
    rw [List.getLast?_append, Option.or_eq_some_iff] at last
    rcases last with later | ⟨_, inside⟩
    · exact second.ends line later
    · exact first.ends line inside

theorem append_empty_iff (notEmpty : lines ≠ []) (notEmptyToo : others ≠ []) :
    TidyLines (lines ++ [] :: others) ↔ TidyLines lines ∧ TidyLines others := by
  constructor
  · intro tidy
    obtain ⟨single, later, meets⟩ := List.isChain_append.1 tidy.single
    obtain ⟨follows, singleToo⟩ := List.isChain_cons.1 later
    constructor
    · refine ⟨?_, single, ?_, ?_⟩
      · exact fun line member => tidy.trimmed line (List.mem_append_left _ member)
      · intro line front
        exact tidy.starts line (by rw [List.head?_append, front]; rfl)
      · intro line last
        simpa using meets line last [] rfl
    · refine ⟨?_, singleToo, ?_, ?_⟩
      · intro line member
        exact tidy.trimmed line (List.mem_append_right _ (List.mem_cons_of_mem _ member))
      · intro line front
        simpa using follows line front
      · intro line last
        exact tidy.ends line (by rw [List.append_cons, List.getLast?_append, last]; rfl)
  · rintro ⟨first, second⟩
    constructor
    · intro line member
      rcases List.mem_append.1 member with inside | later
      · exact first.trimmed line inside
      · rcases List.mem_cons.1 later with rfl | later
        · exact fun char last => nomatch last
        · exact second.trimmed line later
    · refine List.isChain_append.2 ⟨first.single, List.isChain_cons.2 ⟨?_, second.single⟩, ?_⟩
      · exact fun line front => .inr (second.starts line front)
      · exact fun line last _ _ => .inl (first.ends line last)
    · intro line front
      rw [List.head?_append_of_ne_nil _ notEmpty] at front
      exact first.starts line front
    · intro line last
      rw [List.append_cons, List.getLast?_append_of_ne_nil _ notEmptyToo] at last
      exact second.ends line last

theorem intercalate_iff {paragraphs : List (List (List Char))}
    (notEmpty : ∀ paragraph ∈ paragraphs, paragraph ≠ []) :
    TidyLines ([[]].intercalate paragraphs) ↔ ∀ paragraph ∈ paragraphs, TidyLines paragraph := by
  induction paragraphs with
  | nil =>
      have none : TidyLines [] := ⟨by simp, .nil, by simp, by simp⟩
      simpa using none
  | cons paragraph rest ih =>
      obtain ⟨here, later⟩ := List.forall_mem_cons.1 notEmpty
      cases rest with
      | nil => simp
      | cons next rest =>
          have nextNotEmpty := intercalate_ne_nil [[]] (later next List.mem_cons_self) rest
          rw [List.intercalate_cons_cons, List.append_assoc, List.singleton_append,
            append_empty_iff here nextNotEmpty, ih later, List.forall_mem_cons (a := paragraph)]

end TidyLines

theorem tidy_iff_tidyLines {text : List Char} (notEmpty : text ≠ []) :
    Tidy text ↔ TidyLines (splitLines text) := or_iff_right notEmpty

theorem splitLines_intercalate {paragraphs : List (List Char)} (notEmpty : paragraphs ≠ []) :
    splitLines (['\n', '\n'].intercalate paragraphs) =
      [[]].intercalate (paragraphs.map splitLines) := by
  induction paragraphs with
  | nil => exact absurd rfl notEmpty
  | cons paragraph rest ih =>
      cases rest with
      | nil => simp
      | cons next rest =>
          have broken (after : List Char) :
              splitLines (paragraph ++ '\n' :: ([] ++ '\n' :: after)) =
                splitLines paragraph ++ ([[]] ++ splitLines after) := by
            simp only [splitLines, splitAt_append_divider]
            rfl
          have written := broken (['\n', '\n'].intercalate (next :: rest))
          rw [ih (List.cons_ne_nil _ _)] at written
          simpa [List.intercalate_cons_cons] using written

/-- Two tidy texts on lines of their own are tidy lines exactly if neither is empty. -/
theorem tidyLines_broken_iff {first second : List Char} (tidy : Tidy first)
    (tidyToo : Tidy second) :
    TidyLines (splitLines (first ++ '\n' :: second)) ↔ first ≠ [] ∧ second ≠ [] := by
  rw [splitLines, splitAt_append_divider, ← splitLines, ← splitLines]
  constructor
  · intro lines
    constructor
    · rintro rfl
      cases lines.starts [] rfl
    · rintro rfl
      cases lines.ends [] (by rw [List.getLast?_append]; rfl)
  · rintro ⟨notEmpty, notEmptyToo⟩
    exact ((tidy_iff_tidyLines notEmpty).1 tidy).append
      ((tidy_iff_tidyLines notEmptyToo).1 tidyToo)

/-! ## Blocks -/

theorem tidy_plainText (html : String) : Tidy (plainText html).toList := by
  rw [toList_plainText]
  exact tidy_tidy _

theorem mem_paragraphs {blocks : List Block} {context : Context} {text : String} :
    text ∈ paragraphs blocks context ↔
      ∃ block ∈ blocks, paragraph? context block = some text ∧ text ≠ "" := by
  simp only [paragraphs, List.mem_filter, List.mem_filterMap, Bool.not_eq_true',
    String.isEmpty_eq_false_iff]
  constructor
  · rintro ⟨⟨block, member, shown⟩, notEmpty⟩
    exact ⟨block, member, shown, notEmpty⟩
  · rintro ⟨block, member, shown, notEmpty⟩
    exact ⟨⟨block, member, shown⟩, notEmpty⟩

/-- A block of words has no paragraph, the plain text of one of its texts, or the plain texts
of its title and its subtitle on a line each. -/
theorem paragraph?_cases {block : Block} (wordy : block.Wordy) (context : Context) :
    (block.FillsLines context ∧
      (paragraph? context block = none ∨
        ∃ html, paragraph? context block = some (plainText html))) ∨
    ∃ title subtitle,
      block.content = .header title (some subtitle) ∧ subtitle ≠ "" ∧
      paragraph? context block = some (plainText (interpolate title context) ++ "\n" ++
        plainText (interpolate subtitle context)) := by
  obtain ⟨id, content, style⟩ := block
  cases content with
  | header title subtitle =>
      cases subtitle with
      | none => exact .inl ⟨nofun, .inr ⟨_, rfl⟩⟩
      | some subtitle =>
          by_cases empty : subtitle = ""
          · subst empty
            refine .inl ⟨?_, .inr ⟨interpolate title context, ?_⟩⟩
            · rintro _ _ header written
              cases header
              exact absurd rfl written
            · simp [paragraph?, Option.filter_some]
          · refine .inr ⟨title, subtitle, rfl, empty, ?_⟩
            simp [paragraph?, Option.filter_some, empty]
  | text words => exact .inl ⟨nofun, .inr ⟨_, rfl⟩⟩
  | image => exact absurd rfl wordy.1
  | button => exact absurd rfl wordy.2
  | spacer => exact .inl ⟨nofun, .inl rfl⟩
  | footer line => exact .inl ⟨nofun, .inr ⟨_, rfl⟩⟩
  | foreign content => exact .inl ⟨nofun, .inl rfl⟩

theorem fillsLines_iff {block : Block} (wordy : block.Wordy) (context : Context) :
    block.FillsLines context ↔
      ∀ text, paragraph? context block = some text → text ≠ "" →
        TidyLines (splitLines text.toList) := by
  rcases paragraph?_cases wordy context with ⟨fills, nothing | ⟨html, single⟩⟩ | header
  · rw [nothing]
    exact iff_of_true fills nofun
  · refine iff_of_true fills ?_
    intro text shown notEmpty
    obtain rfl := Option.some.inj (single.symm.trans shown)
    exact (tidy_iff_tidyLines (mt String.toList_eq_nil_iff.1 notEmpty)).1 (tidy_plainText html)
  · obtain ⟨title, subtitle, header, written, shown⟩ := header
    have lines := tidyLines_broken_iff (tidy_plainText (interpolate title context))
      (tidy_plainText (interpolate subtitle context))
    rw [ne_eq, ne_eq, String.toList_eq_nil_iff, String.toList_eq_nil_iff] at lines
    have broken : (plainText (interpolate title context) ++ "\n" ++
        plainText (interpolate subtitle context)).toList =
          (plainText (interpolate title context)).toList ++
            '\n' :: (plainText (interpolate subtitle context)).toList := by
      simp [String.toList_append]
    constructor
    · intro fills text found _
      obtain rfl := Option.some.inj (shown.symm.trans found)
      rw [broken, lines]
      exact fills title subtitle header written
    · intro tidy name line same _
      cases header.symm.trans same
      rw [← ne_eq, ← ne_eq] at lines
      rw [← lines, ← broken]
      refine tidy _ shown ?_
      simp

theorem toList_plainPage (blocks : List Block) (context : Context) :
    (plainPage blocks context).toList =
      ['\n', '\n'].intercalate ((paragraphs blocks context).map String.toList) :=
  String.toList_intercalate

theorem splitLines_plainPage {blocks : List Block} {context : Context}
    (notEmpty : paragraphs blocks context ≠ []) :
    splitLines (plainPage blocks context).toList =
      [[]].intercalate ((paragraphs blocks context).map fun text => splitLines text.toList) := by
  rw [toList_plainPage, splitLines_intercalate (by simpa using notEmpty), List.map_map]
  rfl

/-- A page is tidy exactly if each of its paragraphs is. -/
theorem tidy_plainPage_iff (blocks : List Block) (context : Context) :
    Tidy (plainPage blocks context).toList ↔
      ∀ text ∈ paragraphs blocks context, TidyLines (splitLines text.toList) := by
  by_cases nothing : paragraphs blocks context = []
  · rw [toList_plainPage, nothing]
    exact iff_of_true (.inl rfl) nofun
  · have written : (plainPage blocks context).toList ≠ [] := by
      obtain ⟨first, rest, shown⟩ := List.exists_cons_of_ne_nil nothing
      have member : first ∈ paragraphs blocks context := shown ▸ List.mem_cons_self
      obtain ⟨_, _, _, notEmpty⟩ := mem_paragraphs.1 member
      rw [toList_plainPage, shown, List.map_cons]
      exact intercalate_ne_nil _ (mt String.toList_eq_nil_iff.1 notEmpty) _
    have lines : ∀ paragraph ∈ (paragraphs blocks context).map fun text =>
        splitLines text.toList, paragraph ≠ [] := by
      intro paragraph member
      obtain ⟨text, _, rfl⟩ := List.mem_map.1 member
      exact splitAt_ne_nil _
    rw [tidy_iff_tidyLines written, splitLines_plainPage nothing,
      TidyLines.intercalate_iff lines, List.forall_mem_map]

/-- A page without images and buttons is tidy exactly if no header comes out with an empty
title above its subtitle or an empty subtitle below its title. Then each paragraph has tidy
lines, and one empty line stands between a paragraph and the next. -/
theorem page_of_words_is_tidy (context : Context) {blocks : List Block}
    (wordy : ∀ block ∈ blocks, block.Wordy) :
    (Tidy (plainPage blocks context).toList ↔ ∀ block ∈ blocks, block.FillsLines context) ∧
    ((∀ block ∈ blocks, block.FillsLines context) →
      (∀ text ∈ paragraphs blocks context, TidyLines (splitLines text.toList)) ∧
      (paragraphs blocks context ≠ [] →
        splitLines (plainPage blocks context).toList = [[]].intercalate
          ((paragraphs blocks context).map fun text => splitLines text.toList))) := by
  have each : (∀ text ∈ paragraphs blocks context, TidyLines (splitLines text.toList)) ↔
      ∀ block ∈ blocks, block.FillsLines context := by
    constructor
    · intro tidy block member
      rw [fillsLines_iff (wordy block member)]
      intro text shown notEmpty
      exact tidy text (mem_paragraphs.2 ⟨block, member, shown, notEmpty⟩)
    · intro fills text member
      obtain ⟨block, inside, shown, notEmpty⟩ := mem_paragraphs.1 member
      exact (fillsLines_iff (wordy block inside) context).1 (fills block inside) text shown
        notEmpty
  refine ⟨(tidy_plainPage_iff blocks context).trans each, ?_⟩
  intro fills
  exact ⟨each.2 fills, splitLines_plainPage⟩

/-- A header with both lines, markup around the words of a text, and blocks that leave
nothing. -/
theorem page_of_words_is_tidy_for_sam :
    let context : Context := .ofList [("name", .text "Sam"), ("note", .text "")]
    let blocks : List Block :=
      [⟨"s", .spacer, .empty⟩, ⟨"h", .header "Hello \x7b\x7bname\x7d\x7d" (some "News"), .empty⟩,
        ⟨"n", .text "\x7b\x7bnote\x7d\x7d<br>", .empty⟩,
        ⟨"t", .text "<p>One&nbsp;</p> \n\n<p>Two</p>", .empty⟩, ⟨"f", .footer "", .empty⟩]
    (∀ block ∈ blocks, block.Wordy) ∧ (∀ block ∈ blocks, block.FillsLines context) ∧
      Tidy (plainPage blocks context).toList ∧
      plainPage blocks context = "Hello Sam\nNews\n\nOne\n\nTwo" := by
  intro context blocks
  have wordy : ∀ block ∈ blocks, block.Wordy := by
    simp [blocks, Block.Wordy, Block.kind?, Content.kind?]
  have fills : ∀ block ∈ blocks, block.FillsLines context := by
    simp only [blocks, List.forall_mem_cons]
    refine ⟨nofun, ?_, nofun, nofun, nofun, nofun⟩
    intro title subtitle header _
    cases header
    decide +kernel
  obtain ⟨tidy, _⟩ := page_of_words_is_tidy context wordy
  exact ⟨wordy, fills, tidy.2 fills, by decide +kernel⟩

/-- A subtitle that a context leaves empty still takes a line, so that two empty lines follow
its title. -/
theorem emptied_subtitle_leaves_two_blank_lines :
    let context : Context := .ofList [("tagline", .text "")]
    let blocks : List Block :=
      [⟨"h", .header "Hello" (some "\x7b\x7btagline\x7d\x7d"), .empty⟩,
        ⟨"t", .text "Welcome.", .empty⟩]
    (∀ block ∈ blocks, block.Wordy) ∧
      plainPage blocks context = "Hello\n\n\nWelcome." ∧
      ¬ Tidy (plainPage blocks context).toList := by
  intro context blocks
  have page : plainPage blocks context = "Hello\n\n\nWelcome." := by decide +kernel
  refine ⟨?_, page, ?_⟩
  · simp [blocks, Block.Wordy, Block.kind?, Content.kind?]
  · rw [page, ← tidy_eq_self]
    decide +kernel

end Html

end BlockMail
