import BlockMail.Html.Page

/-!
# The shell of a page

A page is a shell around the lines of its blocks. The steps before the blocks leave the
depth at which the steps behind them start, and what a block writes changes no depth, so
the shell depends on the options alone and every block is written without regard to the
others.
-/

set_option autoImplicit false

namespace BlockMail.Html

/-! ## Steps one after the other -/

/-- The depth that steps lead to from a given depth. -/
def depthAfter (depth : Nat) : List Step → Nat
  | [] => depth
  | .line _ :: rest => depthAfter depth rest
  | .indent :: rest => depthAfter (depth + 1) rest
  | .dedent :: rest => depthAfter (depth - 1) rest

theorem linesFrom_append (depth : Nat) (first rest : List Step) :
    linesFrom depth (first ++ rest) =
      linesFrom depth first ++ linesFrom (depthAfter depth first) rest := by
  induction first generalizing depth with
  | nil => rfl
  | cons step first ih =>
      cases step with
      | line text => simp only [List.cons_append, linesFrom, depthAfter, ih]
      | indent => simp only [List.cons_append, linesFrom, depthAfter, ih]
      | dedent => simp only [List.cons_append, linesFrom, depthAfter, ih]

theorem depthAfter_append (depth : Nat) (first rest : List Step) :
    depthAfter depth (first ++ rest) = depthAfter (depthAfter depth first) rest := by
  induction first generalizing depth with
  | nil => rfl
  | cons step first ih => cases step <;> exact ih _

theorem writeLines_append (options : PageOptions) (first rest : List Line) :
    writeLines options (first ++ rest) = writeLines options first ++ writeLines options rest := by
  simp only [writeLines, List.map_append, String.join_append]

theorem writeLines_cons (options : PageOptions) (line : Line) (rest : List Line) :
    writeLines options (line :: rest) = line.written options ++ writeLines options rest := by
  simp only [writeLines, List.map_cons, String.join_cons]

theorem written_ne_empty (options : PageOptions) {line : Line} (text : line.text ≠ "") :
    line.written options ≠ "" := by
  unfold Line.written
  split
  · simp
  · exact text

/-! ## Blocks -/

theorem text_of_element (tag : String) (attributes : List (String × String))
    (children : List Node) : (Node.element tag attributes children).text ≠ "" := by
  simp [Node.text]

/-- Every block of a known kind has a fragment. -/
theorem renderBlock_eq_empty {block : Block} {context : Context} :
    renderBlock block context = "" ↔ block.kind? = none := by
  obtain ⟨id, content, style⟩ := block
  cases content with
  | foreign content => exact ⟨fun _ => rfl, fun _ => rfl⟩
  | _ =>
      constructor
      · intro empty
        exact absurd empty (text_of_element _ _ _)
      · intro unknown
        cases unknown

/-- The depth of the fragments of a page. -/
def bodyDepth : Nat := 3

/-- What a block adds to a page: its fragment as a line, and nothing if its type is not
known. -/
def blockText (options : PageOptions) (context : Context) (block : Block) : String :=
  match block.kind? with
  | some _ => Line.written options ⟨bodyDepth, renderBlock block context⟩
  | none => ""

def bodyText (options : PageOptions) (context : Context) (blocks : List Block) : String :=
  String.join (blocks.map (blockText options context))

theorem blockSteps_eq (context : Context) (block : Block) :
    blockSteps context block =
      match block.kind? with
      | some _ => [.line (renderBlock block context)]
      | none => [] := by
  unfold blockSteps
  cases kind : block.kind? with
  | some known =>
      have shown : renderBlock block context ≠ "" := by
        intro empty
        cases kind.symm.trans (renderBlock_eq_empty.1 empty)
      simp [shown]
  | none => simp [renderBlock_eq_empty.2 kind]

/-- A block leaves the depth as it is and writes the same at any place. -/
theorem blockSteps_write (options : PageOptions) (context : Context) (block : Block) :
    depthAfter bodyDepth (blockSteps context block) = bodyDepth ∧
      writeLines options (linesFrom bodyDepth (blockSteps context block)) =
        blockText options context block := by
  rw [blockSteps_eq]
  unfold blockText
  cases block.kind? with
  | some known =>
      refine ⟨rfl, ?_⟩
      simp [linesFrom, writeLines]
  | none => exact ⟨rfl, rfl⟩

theorem body_write (options : PageOptions) (context : Context) (blocks : List Block) :
    depthAfter bodyDepth (blocks.flatMap (blockSteps context)) = bodyDepth ∧
      writeLines options (linesFrom bodyDepth (blocks.flatMap (blockSteps context))) =
        bodyText options context blocks := by
  induction blocks with
  | nil => exact ⟨rfl, rfl⟩
  | cons block rest ih =>
      obtain ⟨depth, written⟩ := blockSteps_write options context block
      obtain ⟨restDepth, restWritten⟩ := ih
      constructor
      · rw [List.flatMap_cons, depthAfter_append, depth, restDepth]
      · rw [List.flatMap_cons, linesFrom_append, depth, writeLines_append, written, restWritten]
        simp only [bodyText, List.map_cons, String.join_cons]

/-! ## Pages -/

/-- What a page begins with. -/
def shellBefore (options : PageOptions) : String := writeLines options (linesFrom 0 opening)

/-- What a page ends with. -/
def shellAfter (options : PageOptions) : String :=
  writeLines options (linesFrom bodyDepth closing)

theorem shellBefore_ne_empty (options : PageOptions) : shellBefore options ≠ "" := by
  have first : linesFrom 0 opening =
      ⟨0, "<!DOCTYPE html>"⟩ :: (linesFrom 0 opening).tail := rfl
  unfold shellBefore
  rw [first, writeLines_cons]
  intro empty
  exact written_ne_empty options (by decide) (String.append_eq_empty_iff.1 empty).1

theorem page_eq {blocks : List Block} (notEmpty : blocks ≠ []) (context : Context)
    (options : PageOptions) :
    page blocks context options =
      shellBefore options ++ bodyText options context blocks ++ shellAfter options := by
  obtain ⟨depth, written⟩ := body_write options context blocks
  have opened : depthAfter 0 opening = bodyDepth := rfl
  unfold page pageSteps
  rw [if_neg (by simpa using notEmpty), linesFrom_append, linesFrom_append, depthAfter_append,
    opened, depth, writeLines_append, writeLines_append, written]
  rfl

theorem page_eq_empty {blocks : List Block} {context : Context} {options : PageOptions} :
    page blocks context options = "" ↔ blocks = [] := by
  constructor
  · intro empty
    by_cases nothing : blocks = []
    · exact nothing
    · rw [page_eq nothing, String.append_eq_empty_iff, String.append_eq_empty_iff] at empty
      exact absurd empty.1.1 (shellBefore_ne_empty options)
  · rintro rfl
    rfl

theorem bodyText_append (options : PageOptions) (context : Context) (left right : List Block) :
    bodyText options context (left ++ right) =
      bodyText options context left ++ bodyText options context right := by
  simp only [bodyText, List.map_append, String.join_append]

/-- Blocks of unknown type add nothing. -/
theorem bodyText_filter (options : PageOptions) (context : Context) (blocks : List Block) :
    bodyText options context (blocks.filter fun block => block.kind?.isSome) =
      bodyText options context blocks := by
  induction blocks with
  | nil => rfl
  | cons block rest ih =>
      have cons (rest : List Block) : bodyText options context (block :: rest) =
          blockText options context block ++ bodyText options context rest :=
        bodyText_append options context [block] rest
      cases kind : block.kind? with
      | some known =>
          rw [List.filter_cons_of_pos (by rw [kind]; rfl), cons, cons, ih]
      | none =>
          have nothing : blockText options context block = "" := by
            simp only [blockText, kind]
          rw [List.filter_cons_of_neg (by rw [kind]; decide), cons, ih, nothing,
            String.empty_append]

theorem bodyText_congr (options : PageOptions) (context : Context) {blocks others : List Block}
    (same : (blocks.map fun block => (block.content, block.style)) =
      others.map fun block => (block.content, block.style)) :
    bodyText options context blocks = bodyText options context others := by
  have nameless (blocks : List Block) : blocks.map (blockText options context) =
      (blocks.map fun block => (block.content, block.style)).map fun shown =>
        blockText options context ⟨"", shown.1, shown.2⟩ := by
    rw [List.map_map]
    rfl
  rw [bodyText, bodyText, nameless, nameless, same]

/-- The options alone decide the two halves of a shell. Between them a page has what its
blocks add, one after the other, each at the same depth; only without blocks there is no
page. So neither blocks of unknown type nor the identifiers of blocks make a difference. -/
theorem page_in_shell (options : PageOptions) :
    ∃ before after : String,
      (∀ (blocks : List Block) (context : Context), blocks ≠ [] →
        page blocks context options = before ++ bodyText options context blocks ++ after) ∧
      (∀ (blocks : Option (List Block)) (context : Context),
        page (blocks.getD []) context options = "" ↔ blocks = none ∨ blocks = some []) ∧
      (∀ (left right : List Block) (context : Context),
        bodyText options context (left ++ right) =
          bodyText options context left ++ bodyText options context right) ∧
      (∀ (blocks others : List Block) (context : Context), blocks ≠ [] → others ≠ [] →
        (blocks.filter fun block => block.kind?.isSome) =
          (others.filter fun block => block.kind?.isSome) →
        page blocks context options = page others context options) ∧
      ∀ (blocks others : List Block) (context : Context),
        (blocks.map fun block => (block.content, block.style)) =
          (others.map fun block => (block.content, block.style)) →
        page blocks context options = page others context options := by
  refine ⟨shellBefore options, shellAfter options, ?_, ?_, ?_, ?_, ?_⟩
  · intro blocks context notEmpty
    exact page_eq notEmpty context options
  · intro blocks context
    rw [page_eq_empty]
    cases blocks <;> simp
  · intro left right context
    exact bodyText_append options context left right
  · intro blocks others context notEmpty othersNotEmpty same
    rw [page_eq notEmpty, page_eq othersNotEmpty, ← bodyText_filter options context blocks, same,
      bodyText_filter]
  · intro blocks others context same
    by_cases nothing : blocks = []
    · subst nothing
      rw [List.map_eq_nil_iff.1 same.symm]
    · have others_ne : others ≠ [] := by
        rintro rfl
        exact nothing (List.map_eq_nil_iff.1 same)
      rw [page_eq nothing, page_eq others_ne, bodyText_congr options context same]

/-- A block of unknown type beside a spacer and alone. -/
theorem page_in_shell_of_unknown :
    let video : Block := ⟨"v", .foreign ⟨"video", .emptyObject, by decide, rfl⟩, .empty⟩
    let gap (id : String) : Block := ⟨id, .spacer, .empty⟩
    page [video, gap "a"] .empty .default = page [gap "a"] .empty .default ∧
      page [gap "a"] .empty .default = page [gap "b"] .empty .default ∧
      ∃ before after, page [video] .empty .default = before ++ "" ++ after ∧
        page [video] .empty .default ≠ "" := by
  intro video gap
  obtain ⟨before, after, shell, absent, _, known, nameless⟩ := page_in_shell .default
  refine ⟨known _ _ _ (List.cons_ne_nil _ _) (List.cons_ne_nil _ _) rfl, nameless _ _ _ rfl,
    before, after, ?_, ?_⟩
  · exact shell [video] .empty (List.cons_ne_nil _ _)
  · intro empty
    rcases (absent (some [video]) .empty).1 empty with none | nothing
    · cases none
    · cases nothing

end BlockMail.Html
