import Mathlib.Logic.Relation
import BlockMail.Proofs.Html.Paragraphs

/-!
# Plain pages put together

The plain page of two lists of blocks is put together from their plain pages: an empty line
stands between the paragraphs that are left, wherever blocks without a paragraph stand. What
a reader of plain text is not told makes no difference: gaps, blocks of unknown type,
identifiers, styles and the addresses of images.
-/

set_option autoImplicit false

namespace BlockMail.Html

/-- Two texts with an empty line between them. An empty text takes no line. -/
def together (first second : String) : String :=
  if first = "" then second
  else if second = "" then first
  else first ++ "\n\n" ++ second

/-- A change of a list of blocks that its plain text does not tell. -/
inductive Untold : List Block → List Block → Prop where
  | gap (before after : List Block) {block : Block} :
      block.kind? = some .spacer ∨ block.kind? = none →
      Untold (before ++ after) (before ++ block :: after)
  | dress (before after : List Block) (content : Content) (id other : String)
      (style look : StyleMap) :
      Untold (before ++ ⟨id, content, style⟩ :: after) (before ++ ⟨other, content, look⟩ :: after)
  | picture (before after : List Block) (id : String) (alt : Option String) (style : StyleMap)
      (url other : String) :
      Untold (before ++ ⟨id, .image url alt, style⟩ :: after)
        (before ++ ⟨id, .image other alt, style⟩ :: after)

/-! ## Paragraphs of several blocks -/

theorem paragraphs_append (first second : List Block) (context : Context) :
    paragraphs (first ++ second) context =
      paragraphs first context ++ paragraphs second context := by
  simp only [paragraphs, List.filterMap_append, List.filter_append]

theorem paragraphs_cons (block : Block) (rest : List Block) (context : Context) :
    paragraphs (block :: rest) context =
      (paragraph? context block).toList.filter (fun text => !text.isEmpty) ++
        paragraphs rest context := by
  cases shown : paragraph? context block with
  | none => simp [paragraphs, shown]
  | some text => by_cases empty : text = "" <;> simp [paragraphs, shown, empty]

/-- No paragraph is empty, so a page without text has none. -/
theorem plainPage_eq_empty {blocks : List Block} {context : Context} :
    plainPage blocks context = "" ↔ paragraphs blocks context = [] := by
  constructor
  · intro empty
    cases shown : paragraphs blocks context with
    | nil => rfl
    | cons text rest =>
        have member : text ∈ paragraphs blocks context := shown ▸ List.mem_cons_self
        obtain ⟨_, _, _, notEmpty⟩ := mem_paragraphs.1 member
        have written := toList_plainPage blocks context
        rw [empty, shown, List.map_cons] at written
        exact absurd written.symm
          (intercalate_ne_nil _ (mt String.toList_eq_nil_iff.1 notEmpty) _)
  · intro nothing
    rw [plainPage, nothing, String.intercalate_nil]

theorem plainPage_append (first second : List Block) (context : Context) :
    plainPage (first ++ second) context =
      together (plainPage first context) (plainPage second context) := by
  unfold together
  simp only [plainPage_eq_empty]
  unfold plainPage
  rw [paragraphs_append]
  split_ifs with nothing none
  · rw [nothing, List.nil_append]
  · rw [none, List.append_nil]
  · exact String.intercalate_append_of_ne_nil nothing none

/-! ## What is not told -/

theorem paragraph?_of_gap {block : Block} (context : Context)
    (gap : block.kind? = some .spacer ∨ block.kind? = none) : paragraph? context block = none := by
  obtain ⟨id, content, style⟩ := block
  cases content <;> simp_all [Block.kind?, Content.kind?, paragraph?]

theorem Untold.paragraphs {blocks others : List Block} (untold : Untold blocks others)
    (context : Context) : paragraphs blocks context = paragraphs others context := by
  cases untold with
  | gap before after silent =>
      rw [paragraphs_append, paragraphs_append, paragraphs_cons, paragraph?_of_gap context silent]
      rfl
  | dress | picture =>
      rw [paragraphs_append, paragraphs_append, paragraphs_cons, paragraphs_cons]
      rfl

/-- The plain page of two lists one after the other is their plain pages with an empty line
between them, and the page of one where the other has none. Any number of changes that are
not told leaves a plain page as it is. -/
theorem plainPage_of_parts (context : Context) :
    (∀ first second : List Block, plainPage (first ++ second) context =
      together (plainPage first context) (plainPage second context)) ∧
    ∀ blocks others : List Block, Relation.EqvGen Untold blocks others →
      plainPage blocks context = plainPage others context := by
  refine ⟨fun first second => plainPage_append first second context, ?_⟩
  intro blocks others changed
  induction changed with
  | rel blocks others untold => rw [plainPage, plainPage, untold.paragraphs]
  | refl => rfl
  | symm _ _ _ ih => exact ih.symm
  | trans _ _ _ _ _ first second => exact first.trans second

/-- A gap at the front and a block of unknown type at the end are left out, and an image gets
another identifier, style and address. -/
theorem plainPage_of_parts_of_logo :
    let gap : Block := ⟨"s", .spacer, .empty⟩
    let poll : Block := ⟨"p", .foreign ⟨"poll", .emptyObject, by decide, rfl⟩, .empty⟩
    let bye : Block := ⟨"f", .footer "Bye", .empty⟩
    let narrow : StyleMap := ByArrival.empty.insert "width" (.text "8px")
    let blocks := [gap, ⟨"a", .image "a.png" (some "Logo"), .empty⟩, bye, poll]
    let logo : Block := ⟨"b", .image "b.png" (some "Logo"), narrow⟩
    let others := [logo, bye]
    Relation.EqvGen Untold blocks others ∧
      plainPage blocks .empty = plainPage others .empty ∧
      plainPage others .empty = "[Logo]\n\nBye" := by
  intro gap poll bye narrow blocks logo others
  have changed : Relation.EqvGen Untold blocks others := by
    refine .trans _ _ _ (.symm _ _ (.rel _ _ (.gap [] _ (.inl rfl)))) ?_
    refine .trans _ _ _ (.symm _ _ (.rel _ _ (.gap [_, bye] [] (.inr rfl)))) ?_
    refine .trans _ _ _ (.rel _ _ (.dress [] _ _ "a" "b" .empty narrow)) ?_
    exact .rel _ _ (.picture [] _ _ _ _ "a.png" "b.png")
  obtain ⟨parts, same⟩ := plainPage_of_parts .empty
  refine ⟨changed, same _ _ changed, ?_⟩
  have front : plainPage [logo] .empty = "[Logo]" := by decide +kernel
  have behind : plainPage [bye] .empty = "Bye" := by decide +kernel
  have joined := parts [logo] [bye]
  rw [front, behind] at joined
  exact joined

end BlockMail.Html
