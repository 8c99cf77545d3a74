import Mathlib.Data.List.Basic
import BlockMail.Html.PlainText
import BlockMail.Proofs.Html.Placeholders
import BlockMail.Proofs.Html.Shell

/-!
# Personalising before rendering

A mail can be personalised before it is rendered: rendering a block in a context is
rendering, without a context, the block whose texts were replaced in that context. The
same texts are replaced for the fragment and for the plain text. The one exception is a
subtitle that the context leaves empty, as a block without a subtitle is laid out in
another way.
-/

set_option autoImplicit false

namespace BlockMail

open Html

/-- The content with its texts personalised. Addresses and alternative texts stay. -/
def Content.filledIn (content : Content) (context : Context) : Content :=
  match content with
  | .header title subtitle =>
      .header (interpolate title context) (subtitle.map fun text => interpolate text context)
  | .text content => .text (interpolate content context)
  | .image url alt => .image url alt
  | .button label url => .button (interpolate label context) url
  | .spacer => .spacer
  | .footer line => .footer (interpolate line context)
  | .foreign content => .foreign content

namespace Block

def filledIn (block : Block) (context : Context) : Block :=
  { block with content := block.content.filledIn context }

/-- A context leaves no subtitle empty that is not empty itself. -/
def KeepsSubtitle (block : Block) (context : Context) : Prop :=
  ∀ title subtitle, block.content = .header title (some subtitle) → subtitle ≠ "" →
    interpolate subtitle context ≠ ""

end Block

namespace Html

variable {block : Block} {context : Context}

@[simp] theorem interpolate_empty (content : String) : interpolate content .empty = content := rfl

theorem interpolate_of_empty (context : Context) : interpolate "" context = "" := by
  simp [interpolate, hasOpening]

theorem shown?_map {subtitle : Option String}
    (keeps : ∀ text, subtitle = some text → text ≠ "" → interpolate text context ≠ "") :
    shown? (subtitle.map fun text => interpolate text context) =
      (shown? subtitle).map fun text => interpolate text context := by
  cases subtitle with
  | none => rfl
  | some text =>
      by_cases empty : text = ""
      · subst empty
        simp [shown?, Option.filter_some, interpolate_of_empty]
      · have kept := keeps text rfl empty
        simp [shown?, Option.filter_some, empty, kept]

theorem blockNode?_filledIn (keeps : block.KeepsSubtitle context) :
    blockNode? (block.filledIn context) .empty = blockNode? block context := by
  obtain ⟨id, content, style⟩ := block
  cases content with
  | header title subtitle =>
      have shown : shown? _ = _ := shown?_map fun text same => keeps title text (same ▸ rfl)
      simp only [blockNode?, Block.filledIn, Content.filledIn, headerNode, shown]
      cases shown? subtitle <;> rfl
  | text | image | button | spacer | footer | foreign => rfl

theorem paragraph?_filledIn (keeps : block.KeepsSubtitle context) :
    paragraph? .empty (block.filledIn context) = paragraph? context block := by
  obtain ⟨id, content, style⟩ := block
  cases content with
  | header title subtitle =>
      have shown : shown? _ = _ := shown?_map fun text same => keeps title text (same ▸ rfl)
      unfold shown? at shown
      simp only [paragraph?, Block.filledIn, Content.filledIn, shown]
      cases subtitle.filter fun text => !text.isEmpty <;> rfl
  | text | image | button | spacer | footer | foreign => rfl

theorem renderBlock_filledIn (keeps : block.KeepsSubtitle context) :
    renderBlock (block.filledIn context) .empty = renderBlock block context := by
  unfold renderBlock
  rw [blockNode?_filledIn keeps]

theorem page_filledIn {blocks : List Block}
    (keep : ∀ block ∈ blocks, block.KeepsSubtitle context) (options : PageOptions) :
    page (blocks.map fun block => block.filledIn context) .empty options =
      page blocks context options := by
  have steps : (blocks.map fun block => block.filledIn context).flatMap (blockSteps .empty) =
      blocks.flatMap (blockSteps context) := by
    rw [List.flatMap_map]
    apply List.flatMap_congr
    intro block member
    unfold blockSteps
    rw [renderBlock_filledIn (keep block member)]
  unfold page pageSteps
  rw [steps, List.isEmpty_map]

theorem plainPage_filledIn {blocks : List Block}
    (keep : ∀ block ∈ blocks, block.KeepsSubtitle context) :
    plainPage (blocks.map fun block => block.filledIn context) .empty =
      plainPage blocks context := by
  have same : (blocks.map fun block => block.filledIn context).filterMap (paragraph? .empty) =
      blocks.filterMap (paragraph? context) := by
    rw [List.filterMap_map]
    apply List.filterMap_congr
    intro block member
    exact paragraph?_filledIn (keep block member)
  unfold plainPage paragraphs
  rw [same]

/-! ## Subtitles that a context leaves empty -/

theorem header_of_not_keeps (lost : ¬ block.KeepsSubtitle context) :
    ∃ title subtitle, block.content = .header title (some subtitle) ∧ subtitle ≠ "" ∧
      interpolate subtitle context = "" := by
  simpa [Block.KeepsSubtitle] using lost

theorem styled_text_inj {tag : String} {declarations : Declarations} {children others : List Node}
    (same : (styled tag declarations children).text = (styled tag declarations others).text) :
    nodesText children = nodesText others := by
  simp only [styled, Node.text, String.append_assoc] at same
  simpa using same

/-- The fragment has an empty paragraph that the filled in block does not have. -/
theorem renderBlock_of_lost (lost : ¬ block.KeepsSubtitle context) :
    renderBlock (block.filledIn context) .empty ≠ renderBlock block context := by
  obtain ⟨title, subtitle, header, written, nothing⟩ := header_of_not_keeps lost
  obtain ⟨id, content, style⟩ := block
  subst header
  have hidden : shown? (some "") = none := by simp [shown?, Option.filter_some]
  have visible : shown? (some subtitle) = some subtitle := by
    simp [shown?, Option.filter_some, written]
  intro same
  simp only [renderBlock, blockNode?, Block.filledIn, Content.filledIn, headerNode,
    Option.map_some, nothing, hidden, visible] at same
  have shorter := styled_text_inj same
  simp only [nodesText, String.append_empty, personalised, interpolate_empty] at shorter
  exact text_of_element _ _ _ (String.append_eq_left_iff.1 shorter.symm)

theorem plainPage_singleton (block : Block) (context : Context) :
    plainPage [block] context = (paragraph? context block).getD "" := by
  unfold plainPage paragraphs
  cases words : paragraph? context block with
  | none => simp [words]
  | some text =>
      by_cases empty : text = ""
      · simp [words, empty]
      · simp [words, empty]

/-- The plain text has a line break that the filled in block does not have. -/
theorem plainPage_of_lost (lost : ¬ block.KeepsSubtitle context) :
    plainPage [block.filledIn context] .empty ≠ plainPage [block] context := by
  obtain ⟨title, subtitle, header, written, nothing⟩ := header_of_not_keeps lost
  obtain ⟨id, content, style⟩ := block
  subst header
  have longer : paragraph? context ⟨id, .header title (some subtitle), style⟩ =
      some (plainText (interpolate title context) ++
        ("\n" ++ plainText (interpolate subtitle context))) := by
    simp [paragraph?, Option.filter_some, written, String.append_assoc]
  have shorter : paragraph? .empty
      (Block.filledIn ⟨id, .header title (some subtitle), style⟩ context) =
        some (plainText (interpolate title context)) := by
    simp [paragraph?, Block.filledIn, Content.filledIn, Option.filter_some, nothing]
  rw [plainPage_singleton, plainPage_singleton, longer, shorter]
  intro same
  have broken := String.append_eq_left_iff.1 same.symm
  simp at broken

/-! ## Mails -/

/-- Rendering a block in a context is rendering it filled in from the context, as a fragment
and as plain text, exactly if the context leaves no subtitle empty. So a mail whose
subtitles are kept has the same page and the same plain text when it is filled in first. -/
theorem rendering_of_filled_in (context : Context) :
    (∀ block : Block,
      renderBlock block context = renderBlock (block.filledIn context) .empty ↔
        block.KeepsSubtitle context) ∧
    (∀ block : Block,
      plainPage [block] context = plainPage [block.filledIn context] .empty ↔
        block.KeepsSubtitle context) ∧
    ∀ blocks : List Block, (∀ block ∈ blocks, block.KeepsSubtitle context) →
      (∀ options, page blocks context options =
        page (blocks.map fun block => block.filledIn context) .empty options) ∧
      plainPage blocks context =
        plainPage (blocks.map fun block => block.filledIn context) .empty := by
  refine ⟨?_, ?_, ?_⟩
  · intro block
    constructor
    · intro same
      by_contra lost
      exact renderBlock_of_lost lost same.symm
    · intro keeps
      exact (renderBlock_filledIn keeps).symm
  · intro block
    constructor
    · intro same
      by_contra lost
      exact plainPage_of_lost lost same.symm
    · intro keeps
      have single : ∀ other ∈ [block], other.KeepsSubtitle context :=
        List.forall_mem_singleton.2 keeps
      exact (plainPage_filledIn single).symm
  · intro blocks keep
    refine ⟨?_, (plainPage_filledIn keep).symm⟩
    intro options
    exact (page_filledIn keep options).symm

/-- A header with a value that looks like a placeholder, which is not replaced a second time,
and a subtitle that is emptied. -/
theorem rendering_of_filled_in_header :
    let context : Context :=
      .ofList [("name", .text "\x7b\x7bnews\x7d\x7d"), ("news", .text "")]
    let header (subtitle : String) : Block :=
      ⟨"h", .header "Hi \x7b\x7bname\x7d\x7d" (some subtitle), .empty⟩
    let shown : Block :=
      ⟨"h", .header "Hi \x7b\x7bnews\x7d\x7d" (some "\x7b\x7bnews\x7d\x7d"), .empty⟩
    let image : Block := ⟨"i", .image "\x7b\x7bname\x7d\x7d" none, .empty⟩
    page [header "\x7b\x7bname\x7d\x7d", image] context .default =
        page [shown, image] .empty .default ∧
      plainPage [header "\x7b\x7bname\x7d\x7d", image] context = plainPage [shown, image] .empty ∧
      renderBlock (header "\x7b\x7bnews\x7d\x7d") context ≠
        renderBlock ((header "\x7b\x7bnews\x7d\x7d").filledIn context) .empty := by
  intro context header shown image
  obtain ⟨fragments, _, mails⟩ := rendering_of_filled_in context
  have once : interpolate "Hi \x7b\x7bname\x7d\x7d" context = "Hi \x7b\x7bnews\x7d\x7d" := by
    decide +kernel
  have again : interpolate "\x7b\x7bname\x7d\x7d" context = "\x7b\x7bnews\x7d\x7d" := by
    decide +kernel
  have nothing : interpolate "\x7b\x7bnews\x7d\x7d" context = "" := by
    decide +kernel
  have filled : (header "\x7b\x7bname\x7d\x7d").filledIn context = shown := by
    simp [header, shown, Block.filledIn, Content.filledIn, once, again]
  have keep : ∀ block ∈ [header "\x7b\x7bname\x7d\x7d", image],
      block.KeepsSubtitle context := by
    rintro block member title subtitle same -
    obtain rfl | rfl : block = header _ ∨ block = image := by simpa using member
    · cases same
      simp [again]
    · cases same
  obtain ⟨pages, plain⟩ := mails _ keep
  have lost : ¬ (header "\x7b\x7bnews\x7d\x7d").KeepsSubtitle context :=
    fun keeps => keeps _ _ rfl (by decide) nothing
  refine ⟨?_, ?_, (fragments _).not.2 lost⟩
  · rw [pages, List.map_cons, filled]
    rfl
  · rw [plain, List.map_cons, filled]
    rfl

end Html

end BlockMail
