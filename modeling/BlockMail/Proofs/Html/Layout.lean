import BlockMail.Proofs.Html.Shell
import BlockMail.Proofs.Text.Split

/-!
# Pretty and compact pages

Both forms of a page are made of the same lines. A pretty page has every line behind its
indentation and before a line break, a compact page has nothing but the lines. Since every
line of a page starts with a tag, the compact form can be told from the pretty one.
-/

set_option autoImplicit false

namespace BlockMail

namespace Html

/-! ## Levels -/

/-- Steps that lead from one depth to another and leave no level that was not entered. -/
inductive Nested : Nat → List Step → Nat → Prop where
  | done {depth : Nat} : Nested depth [] depth
  | line {depth last : Nat} {text : String} {rest : List Step} :
      Nested depth rest last → Nested depth (.line text :: rest) last
  | indent {depth last : Nat} {rest : List Step} :
      Nested (depth + 1) rest last → Nested depth (.indent :: rest) last
  | dedent {depth last : Nat} {rest : List Step} :
      Nested depth rest last → Nested (depth + 1) (.dedent :: rest) last

namespace Nested

variable {depth middle last : Nat} {steps before after : List Step}

theorem append (first : Nested depth steps middle) {rest : List Step}
    (second : Nested middle rest last) : Nested depth (steps ++ rest) last := by
  induction first with
  | done => exact second
  | line _ ih => exact .line (ih second)
  | indent _ ih => exact .indent (ih second)
  | dedent _ ih => exact .dedent (ih second)

theorem depthAfter_eq (nested : Nested depth steps last) : depthAfter depth steps = last := by
  induction nested with
  | done => rfl
  | line _ ih => exact ih
  | indent _ ih => exact ih
  | dedent _ ih => exact ih

theorem depth_pos (nested : Nested depth (before ++ .dedent :: after) last) :
    0 < depthAfter depth before := by
  induction before generalizing depth with
  | nil =>
      cases nested with
      | dedent _ => exact Nat.succ_pos _
  | cons step before ih =>
      cases nested with
      | line rest => exact ih rest
      | indent rest => exact ih rest
      | dedent rest => exact ih rest

end Nested

theorem nested_opening : Nested 0 opening bodyDepth := by
  unfold opening
  repeat constructor

theorem nested_closing : Nested bodyDepth closing 0 := by
  unfold closing
  repeat constructor

theorem nested_blockSteps (context : Context) (block : Block) :
    Nested bodyDepth (blockSteps context block) bodyDepth := by
  rw [blockSteps_eq]
  cases block.kind? with
  | none => exact .done
  | some known => exact .line .done

theorem nested_body (blocks : List Block) (context : Context) :
    Nested bodyDepth (blocks.flatMap (blockSteps context)) bodyDepth := by
  induction blocks with
  | nil => exact .done
  | cons block rest ih =>
      rw [List.flatMap_cons]
      exact (nested_blockSteps context block).append ih

theorem nested_pageSteps (blocks : List Block) (context : Context) :
    Nested 0 (pageSteps blocks context) 0 :=
  (nested_opening.append (nested_body blocks context)).append nested_closing

/-! ## Lines -/

theorem mem_linesFrom {depth : Nat} {steps : List Step} {line : Line}
    (member : line ∈ linesFrom depth steps) : .line line.text ∈ steps := by
  induction steps generalizing depth with
  | nil => cases member
  | cons step rest ih =>
      cases step with
      | line text =>
          rcases List.mem_cons.1 member with rfl | later
          · exact List.mem_cons_self
          · exact List.mem_cons_of_mem _ (ih later)
      | indent => exact List.mem_cons_of_mem _ (ih member)
      | dedent => exact List.mem_cons_of_mem _ (ih member)

/-- The lines of a page, whichever form it is written in. -/
def pageLines (blocks : List Block) (context : Context) : List Line :=
  if blocks.isEmpty then [] else linesFrom 0 (pageSteps blocks context)

theorem page_eq_writeLines (blocks : List Block) (context : Context) (options : PageOptions) :
    page blocks context options = writeLines options (pageLines blocks context) := by
  unfold page pageLines
  split
  · rfl
  · rfl

theorem pageLines_eq {blocks : List Block} (notEmpty : blocks ≠ []) (context : Context) :
    pageLines blocks context = linesFrom 0 opening ++
      (linesFrom bodyDepth (blocks.flatMap (blockSteps context)) ++
        linesFrom bodyDepth closing) := by
  unfold pageLines pageSteps
  rw [if_neg (by simpa using notEmpty), List.append_assoc, linesFrom_append,
    nested_opening.depthAfter_eq, linesFrom_append, (nested_body blocks context).depthAfter_eq]

theorem pageLines_eq_nil {blocks : List Block} {context : Context} :
    pageLines blocks context = [] ↔ blocks = [] := by
  constructor
  · intro nothing
    by_cases empty : blocks = []
    · exact empty
    · rw [pageLines_eq empty] at nothing
      cases nothing
  · rintro rfl
    rfl

theorem depth_of_end {blocks : List Block} {context : Context} {line : Line}
    (ends : (pageLines blocks context).head? = some line ∨
      (pageLines blocks context).getLast? = some line) : line.depth = 0 := by
  by_cases notEmpty : blocks = []
  · subst notEmpty
    rcases ends with first | last
    · cases first
    · cases last
  · rw [pageLines_eq notEmpty] at ends
    have shell : linesFrom 0 opening = ⟨0, "<!DOCTYPE html>"⟩ :: (linesFrom 0 opening).tail :=
      rfl
    have foot : linesFrom bodyDepth closing = [⟨2, "</div>"⟩, ⟨1, "</body>"⟩, ⟨0, "</html>"⟩] :=
      rfl
    rcases ends with first | last
    · rw [shell, List.cons_append, List.head?_cons] at first
      cases first
      rfl
    · rw [foot, ← List.append_assoc, List.getLast?_append] at last
      cases last
      rfl

/-! ## Tags -/

/-- Text that starts with a tag and does not go on past its line. -/
def TaggedLine (text : String) : Prop := text.toList.head? = some '<' ∧ '\n' ∉ text.toList

instance (text : String) : Decidable (TaggedLine text) := inferInstanceAs (Decidable (_ ∧ _))

def Step.text? : Step → Option String
  | .line text => some text
  | .indent | .dedent => none

theorem taggedLine_shell :
    ∀ text ∈ (opening ++ closing).filterMap Step.text?, TaggedLine text := by
  decide

theorem head_element (tag : String) (attributes : List (String × String))
    (children : List Node) :
    (Node.element tag attributes children).text.toList.head? = some '<' := by
  simp [Node.text]

theorem head_renderBlock {block : Block} {context : Context}
    (shown : renderBlock block context ≠ "") :
    (renderBlock block context).toList.head? = some '<' := by
  obtain ⟨id, content, style⟩ := block
  cases content with
  | foreign content => exact absurd rfl shown
  | header | text | image | button | spacer | footer => exact head_element _ _ _

theorem taggedLine_of_mem {blocks : List Block} {context : Context}
    (unbroken : ∀ block ∈ blocks, '\n' ∉ (renderBlock block context).toList) {line : Line}
    (member : line ∈ pageLines blocks context) : TaggedLine line.text := by
  have written : .line line.text ∈ pageSteps blocks context := by
    unfold pageLines at member
    split at member
    · cases member
    · exact mem_linesFrom member
  have shell (inShell : .line line.text ∈ opening ++ closing) : TaggedLine line.text :=
    taggedLine_shell _ (List.mem_filterMap.2 ⟨_, inShell, rfl⟩)
  rcases List.mem_append.1 written with front | foot
  · rcases List.mem_append.1 front with head | body
    · exact shell (List.mem_append_left _ head)
    · obtain ⟨block, inBlocks, fragment⟩ := List.mem_flatMap.1 body
      unfold blockSteps at fragment
      dsimp only at fragment
      split at fragment
      · cases fragment
      · rename_i shown
        rw [Step.line.inj (List.mem_singleton.1 fragment)]
        exact ⟨head_renderBlock (by simpa using shown), unbroken block inBlocks⟩
  · exact shell (List.mem_append_right _ foot)

/-! ## From the pretty form to the compact one -/

/-- Text without line breaks and without what stands on a line before its first tag. -/
def flattened (text : String) : String :=
  String.ofList ((Text.splitAt '\n' text.toList).flatMap fun line =>
    line.dropWhile fun char => char != '<')

theorem not_mem_indentation {char : Char} {indent : String} (absent : char ∉ indent.toList)
    (depth : Nat) : char ∉ (String.join (List.replicate depth indent)).toList := by
  induction depth with
  | zero => simp
  | succ depth ih =>
      rw [List.replicate_succ, String.join_cons, String.toList_append, List.mem_append]
      rintro (here | later)
      · exact absent here
      · exact ih later

theorem flattened_cons {indentation text rest : String} (oneLine : '\n' ∉ indentation.toList)
    (tagless : '<' ∉ indentation.toList) (tagged : TaggedLine text) :
    flattened (indentation ++ text ++ "\n" ++ rest) = text ++ flattened rest := by
  obtain ⟨opens, unbroken⟩ := tagged
  obtain ⟨more, tag⟩ := List.head?_eq_some_iff.1 opens
  have written : (indentation ++ text ++ "\n" ++ rest).toList =
      (indentation.toList ++ text.toList) ++ '\n' :: rest.toList := by
    simp
  have whole : '\n' ∉ indentation.toList ++ text.toList := by
    rw [List.mem_append, not_or]
    exact ⟨oneLine, unbroken⟩
  have before : ∀ char ∈ indentation.toList, (char != '<') = true := by
    intro char member
    rw [bne_iff_ne]
    rintro rfl
    exact tagless member
  have kept : (indentation.toList ++ text.toList).dropWhile (fun char => char != '<') =
      text.toList := by
    rw [List.dropWhile_append_of_pos before, tag]
    rfl
  unfold flattened
  rw [written, Text.splitAt_append_cons whole, List.flatMap_cons, kept, String.ofList_append,
    String.ofList_toList]

theorem flattened_writeLines {indent : String} (oneLine : '\n' ∉ indent.toList)
    (tagless : '<' ∉ indent.toList) {lines : List Line}
    (tagged : ∀ line ∈ lines, TaggedLine line.text) :
    flattened (writeLines ⟨true, indent⟩ lines) = String.join (lines.map Line.text) := by
  induction lines with
  | nil => rfl
  | cons line rest ih =>
      obtain ⟨here, later⟩ := List.forall_mem_cons.1 tagged
      have pretty : line.written ⟨true, indent⟩ =
          String.join (List.replicate line.depth indent) ++ line.text ++ "\n" := rfl
      rw [writeLines_cons, pretty, flattened_cons (not_mem_indentation oneLine line.depth)
        (not_mem_indentation tagless line.depth) here, ih later, List.map_cons, String.join_cons]

/-- Whatever the indentation, the two forms of a page are the same lines, laid out in the one
and put together in the other. The first line and the last stand at depth 0, which is where
the steps lead to, and no step leaves a level at depth 0. So the compact form is what remains
of a pretty one without line breaks and without what stands on each line before its tag, if
neither the indentation nor a fragment breaks a line and the indentation has no tag. -/
theorem pretty_and_compact (blocks : List Block) (context : Context) :
    ∃ lines : List Line,
      (∀ indent, page blocks context ⟨false, indent⟩ = String.join (lines.map Line.text)) ∧
      (∀ indent, page blocks context ⟨true, indent⟩ =
        String.join (lines.map fun line =>
          String.join (List.replicate line.depth indent) ++ line.text ++ "\n")) ∧
      (lines = [] ↔ blocks = []) ∧
      (∀ line, lines.head? = some line ∨ lines.getLast? = some line → line.depth = 0) ∧
      depthAfter 0 (pageSteps blocks context) = 0 ∧
      (∀ before after, pageSteps blocks context = before ++ .dedent :: after →
        0 < depthAfter 0 before) ∧
      (∀ indent other,
        page blocks context ⟨false, indent⟩ = page blocks context ⟨false, other⟩) ∧
      ∀ indent other : String, '\n' ∉ indent.toList → '<' ∉ indent.toList →
        (∀ block ∈ blocks, '\n' ∉ (renderBlock block context).toList) →
        flattened (page blocks context ⟨true, indent⟩) = page blocks context ⟨false, other⟩ := by
  have compact (indent : String) : page blocks context ⟨false, indent⟩ =
      String.join ((pageLines blocks context).map Line.text) :=
    page_eq_writeLines blocks context ⟨false, indent⟩
  have nested := nested_pageSteps blocks context
  refine ⟨pageLines blocks context, compact, ?_, pageLines_eq_nil, ?_, nested.depthAfter_eq,
    ?_, ?_, ?_⟩
  · intro indent
    exact page_eq_writeLines blocks context ⟨true, indent⟩
  · intro line ends
    exact depth_of_end ends
  · intro before after split
    rw [split] at nested
    exact nested.depth_pos
  · intro indent other
    rw [compact, compact]
  · intro indent other oneLine tagless unbroken
    rw [page_eq_writeLines, compact]
    exact flattened_writeLines oneLine tagless fun line member =>
      taggedLine_of_mem unbroken member

/-- A block of unknown type before a spacer, indented by a tabulator. -/
theorem pretty_and_compact_of_gap :
    let video : Block := ⟨"v", .foreign ⟨"video", .emptyObject, by decide, rfl⟩, .empty⟩
    let gap : Block := ⟨"a", .spacer, .empty⟩
    '\n' ∉ (renderBlock gap .empty).toList ∧
      flattened (page [video, gap] .empty ⟨true, "\t"⟩) = page [video, gap] .empty ⟨false, ""⟩ := by
  intro video gap
  have unbroken : '\n' ∉ (renderBlock gap .empty).toList := by decide
  obtain ⟨_, _, _, _, _, _, _, _, flat⟩ := pretty_and_compact [video, gap] .empty
  refine ⟨unbroken, flat "\t" "" (by decide) (by decide) ?_⟩
  intro block member
  rcases List.mem_cons.1 member with rfl | member
  · decide
  · rw [List.mem_singleton.1 member]
    exact unbroken

end Html

end BlockMail
