import Mathlib.Data.List.Chain
import BlockMail.Html.PlainText
import BlockMail.Proofs.Text.Blank
import BlockMail.Proofs.Text.Split

/-!
# Tidy text

Tidying keeps every line that there is something to see on, without the blanks at its end,
and the order of these lines. Of the blank lines it keeps one for each gap between two of
them. A text is left as it is exactly if it is tidy already, and one pass over the lines
that counts the blank lines since the last other line does the same.
-/

set_option autoImplicit false

namespace BlockMail.Html

open Text

/-- Lines without blanks at their ends, no two of them blank in a row, and none blank at
either end of the list. -/
structure TidyLines (lines : List (List Char)) : Prop where
  trimmed : ∀ line ∈ lines, Trimmed line
  single : lines.IsChain fun first second => visible first = true ∨ visible second = true
  starts : ∀ line, lines.head? = some line → visible line = true
  ends : ∀ line, lines.getLast? = some line → visible line = true

/-- A text that is empty or has tidy lines. -/
def Tidy (text : List Char) : Prop := text = [] ∨ TidyLines (splitLines text)

/-- The lines of a text that there is something to see on. -/
def visibleLines (text : List Char) : List (List Char) := (splitLines text).filter visible

/-- Two visible lines of a list with nothing but blank lines between them. -/
structure Follows (lines before : List (List Char)) (first : List Char)
    (gap : List (List Char)) (second : List Char) (after : List (List Char)) : Prop where
  whole : lines = before ++ first :: (gap ++ second :: after)
  starts : visible first = true
  ends : visible second = true
  blank : ∀ line ∈ gap, visible line = false

/-- What is left of the blank lines between two lines. -/
def tidyGap (gap : List (List Char)) : List (List Char) := if gap = [] then [] else [[]]

/-! ## Empty lines -/

@[simp] theorem visible_nil : visible [] = false := rfl

theorem ne_nil_of_visible {line : List Char} (seen : visible line = true) : line ≠ [] := by
  rintro rfl
  cases seen

theorem collapseEmpty_cons {line : List Char} (notEmpty : line ≠ []) (rest : List (List Char)) :
    collapseEmpty (line :: rest) = line :: collapseEmpty rest := by
  cases rest with
  | nil => rfl
  | cons next rest => simp [collapseEmpty, notEmpty]

theorem collapseEmpty_empty (rest : List (List Char)) :
    collapseEmpty ([] :: rest) = [] :: collapseEmpty (rest.dropWhile List.isEmpty) := by
  induction rest with
  | nil => rfl
  | cons next rest ih =>
      by_cases empty : next = []
      · subst empty
        rw [List.dropWhile_cons_of_pos rfl, ← ih]
        rfl
      · rw [List.dropWhile_cons_of_neg (by simpa using empty)]
        simp [collapseEmpty, empty]

/-- A line that is not empty parts what is collapsed before it from what is behind it. -/
theorem collapseEmpty_append {line : List Char} (notEmpty : line ≠ [])
    (before rest : List (List Char)) :
    collapseEmpty (before ++ line :: rest) =
      collapseEmpty before ++ line :: collapseEmpty rest := by
  fun_induction collapseEmpty before with
  | case1 => exact collapseEmpty_cons notEmpty rest
  | case2 other =>
      simp [collapseEmpty, notEmpty, collapseEmpty_cons notEmpty]
  | case3 first next before empty ih =>
      rw [← ih, List.cons_append, List.cons_append, collapseEmpty, if_pos empty]
  | case4 first next before apart ih =>
      rw [List.cons_append, List.cons_append, collapseEmpty, if_neg apart, ← List.cons_append, ih]
      rfl

theorem head?_collapseEmpty (lines : List (List Char)) :
    (collapseEmpty lines).head? = lines.head? := by
  fun_induction collapseEmpty lines with
  | case1 => rfl
  | case2 => rfl
  | case3 first next rest empty ih =>
      rw [Bool.and_eq_true, List.isEmpty_iff, List.isEmpty_iff] at empty
      rw [ih, List.head?_cons, List.head?_cons, empty.1, empty.2]
  | case4 => rfl

theorem collapseEmpty_sublist (lines : List (List Char)) :
    (collapseEmpty lines).Sublist lines := by
  fun_induction collapseEmpty lines with
  | case1 => exact List.Sublist.refl []
  | case2 line => exact List.Sublist.refl [line]
  | case3 first next rest _ ih => exact ih.cons first
  | case4 first next rest _ ih => exact ih.cons_cons first

theorem collapseEmpty_filter (lines : List (List Char)) :
    (collapseEmpty lines).filter visible = lines.filter visible := by
  fun_induction collapseEmpty lines with
  | case1 => rfl
  | case2 => rfl
  | case3 first next rest empty ih =>
      rw [Bool.and_eq_true, List.isEmpty_iff] at empty
      rw [ih, empty.1]
      rfl
  | case4 first next rest _ ih => rw [List.filter_cons, List.filter_cons, ih]

theorem collapseEmpty_isChain {lines : List (List Char)}
    (trimmed : ∀ line ∈ lines, Trimmed line) :
    (collapseEmpty lines).IsChain fun first second =>
      visible first = true ∨ visible second = true := by
  fun_induction collapseEmpty lines with
  | case1 => exact .nil
  | case2 line => exact .singleton line
  | case3 first next rest _ ih =>
      exact ih fun line member => trimmed line (List.mem_cons_of_mem _ member)
  | case4 first next rest apart ih =>
      obtain ⟨firstTrimmed, others⟩ := List.forall_mem_cons.1 trimmed
      rw [List.isChain_cons, head?_collapseEmpty]
      refine ⟨?_, ih others⟩
      rintro line same
      cases same
      rw [Bool.and_eq_true, List.isEmpty_iff, List.isEmpty_iff, not_and_or] at apart
      rwa [firstTrimmed.visible_iff, (others next List.mem_cons_self).visible_iff]

theorem collapseEmpty_eq_self {lines : List (List Char)}
    (single : lines.IsChain fun first second => visible first = true ∨ visible second = true) :
    collapseEmpty lines = lines := by
  fun_induction collapseEmpty lines with
  | case1 => rfl
  | case2 => rfl
  | case3 first next rest empty ih =>
      rw [Bool.and_eq_true, List.isEmpty_iff, List.isEmpty_iff] at empty
      rw [List.isChain_cons_cons, empty.1, empty.2] at single
      simp at single
  | case4 first next rest _ ih => rw [ih (List.isChain_cons_cons.1 single).2]

theorem dropEmptyEnd_eq (lines : List (List Char)) :
    dropEmptyEnd lines = lines.rdropWhile List.isEmpty := rfl

theorem dropEmpty_filter (lines : List (List Char)) :
    (lines.dropWhile List.isEmpty).filter visible = lines.filter visible := by
  induction lines with
  | nil => rfl
  | cons line rest ih =>
      by_cases empty : line = []
      · subst empty
        rw [List.dropWhile_cons_of_pos rfl, ih]
        rfl
      · rw [List.dropWhile_cons_of_neg (by simpa using empty)]

theorem dropEmptyEnd_filter (lines : List (List Char)) :
    (dropEmptyEnd lines).filter visible = lines.filter visible := by
  rw [dropEmptyEnd, List.filter_reverse, dropEmpty_filter, List.filter_reverse,
    List.reverse_reverse]

/-- Nothing is dropped behind a line that is not empty. -/
theorem dropEmpty_append {line : List Char} (notEmpty : line ≠ [])
    (before rest : List (List Char)) :
    (before ++ line :: rest).dropWhile List.isEmpty =
      before.dropWhile List.isEmpty ++ line :: rest := by
  rw [List.dropWhile_append]
  split
  · rename_i nothing
    rw [List.isEmpty_iff.1 nothing, List.dropWhile_cons_of_neg (by simpa using notEmpty)]
    rfl
  · rfl

theorem dropEmptyEnd_append {line : List Char} (notEmpty : line ≠ [])
    (before rest : List (List Char)) :
    dropEmptyEnd (before ++ line :: rest) = before ++ line :: dropEmptyEnd rest := by
  simp only [dropEmptyEnd, List.reverse_append, List.reverse_cons, List.append_assoc,
    List.singleton_append, dropEmpty_append notEmpty, List.reverse_reverse]

/-! ## Tidy lines -/

theorem tidyLines_eq (lines : List (List Char)) :
    tidyLines lines = (collapseEmpty ((lines.map trimEnd).dropWhile List.isEmpty)).rdropWhile
      List.isEmpty := rfl

theorem tidyLines_sublist (lines : List (List Char)) :
    (tidyLines lines).Sublist (lines.map trimEnd) := by
  rw [tidyLines_eq]
  refine (List.rdropWhile_prefix _ _).sublist.trans ?_
  exact (collapseEmpty_sublist _).trans (List.dropWhile_suffix _).sublist

theorem trimmed_of_mem_map {lines : List (List Char)} {line : List Char}
    (member : line ∈ lines.map trimEnd) : Trimmed line := by
  obtain ⟨source, _, rfl⟩ := List.mem_map.1 member
  exact trimmed_trimEnd source

theorem tidyLines_filter (lines : List (List Char)) :
    (tidyLines lines).filter visible = (lines.filter visible).map trimEnd := by
  have same : visible ∘ trimEnd = visible := funext visible_trimEnd
  rw [tidyLines, dropEmptyEnd_filter, collapseEmpty_filter, dropEmpty_filter, List.filter_map,
    same]

theorem tidyLines_tidy (lines : List (List Char)) : TidyLines (tidyLines lines) := by
  have trimmed : ∀ line ∈ (lines.map trimEnd).dropWhile List.isEmpty, Trimmed line :=
    fun line member => trimmed_of_mem_map ((List.dropWhile_suffix _).subset member)
  constructor
  · exact fun line member => trimmed_of_mem_map ((tidyLines_sublist lines).subset member)
  · exact List.IsChain.prefix (collapseEmpty_isChain trimmed) (List.rdropWhile_prefix _ _)
  · intro line first
    obtain ⟨rest, tidied⟩ := List.head?_eq_some_iff.1 first
    obtain ⟨dropped, whole⟩ := List.rdropWhile_prefix List.isEmpty
      (collapseEmpty ((lines.map trimEnd).dropWhile List.isEmpty))
    rw [← tidyLines_eq, tidied] at whole
    have front : ((lines.map trimEnd).dropWhile List.isEmpty).head? = some line := by
      rw [← head?_collapseEmpty, ← whole]
      rfl
    have notEmpty := List.head?_dropWhile_not List.isEmpty (lines.map trimEnd)
    rw [front] at notEmpty
    have member := List.mem_of_head? front
    rw [(trimmed line member).visible_iff]
    simpa using notEmpty
  · intro line last
    have notEmpty : tidyLines lines ≠ [] := by
      rintro nothing
      rw [nothing] at last
      cases last
    have shown := List.rdropWhile_last_not List.isEmpty _ notEmpty
    have member := (tidyLines_sublist lines).subset (List.getLast_mem notEmpty)
    rw [List.getLast?_eq_some_getLast notEmpty, Option.some.injEq] at last
    rw [← last, (trimmed_of_mem_map member).visible_iff]
    exact fun empty => shown (List.isEmpty_iff.2 empty)

theorem tidyLines_eq_self {lines : List (List Char)} (tidy : TidyLines lines) :
    tidyLines lines = lines := by
  have same : lines.map trimEnd = lines := by
    refine (List.map_congr_left ?_).trans (List.map_id lines)
    intro line member
    exact trimEnd_eq_self.2 (tidy.trimmed line member)
  have front : lines.dropWhile List.isEmpty = lines := by
    cases lines with
    | nil => rfl
    | cons line rest =>
        have notEmpty := ne_nil_of_visible (tidy.starts line rfl)
        rw [List.dropWhile_cons_of_neg (by simpa using notEmpty)]
  rw [tidyLines_eq, same, front, collapseEmpty_eq_self tidy.single, List.rdropWhile_eq_self_iff]
  intro notEmpty empty
  have seen := tidy.ends _ (List.getLast?_eq_some_getLast notEmpty)
  exact ne_nil_of_visible seen (List.isEmpty_iff.1 empty)

theorem collapseEmpty_gap {gap : List (List Char)} (empty : ∀ line ∈ gap, line = [])
    {line : List Char} (notEmpty : line ≠ []) (rest : List (List Char)) :
    collapseEmpty (gap ++ line :: rest) = tidyGap gap ++ line :: collapseEmpty rest := by
  rw [collapseEmpty_append notEmpty]
  congr 1
  cases gap with
  | nil => rfl
  | cons first gap =>
      obtain ⟨rfl, others⟩ := List.forall_mem_cons.1 empty
      have nothing : gap.dropWhile List.isEmpty = [] := by
        rw [List.dropWhile_eq_nil_iff]
        exact fun line member => List.isEmpty_iff.2 (others line member)
      rw [collapseEmpty_empty, nothing]
      rfl

/-- Visible lines that follow each other still do, behind and before what is left of the
same visible lines. -/
theorem follows_tidyLines {lines before gap after : List (List Char)} {first second : List Char}
    (follows : Follows lines before first gap second after) :
    ∃ above below,
      Follows (tidyLines lines) above (trimEnd first) (tidyGap gap) (trimEnd second) below ∧
      above.filter visible = (before.filter visible).map trimEnd ∧
      below.filter visible = (after.filter visible).map trimEnd := by
  have same : visible ∘ trimEnd = visible := funext visible_trimEnd
  have starts : visible (trimEnd first) = true := (visible_trimEnd first).trans follows.starts
  have ends : visible (trimEnd second) = true := (visible_trimEnd second).trans follows.ends
  have empty : ∀ line ∈ gap.map trimEnd, line = [] := by
    intro line member
    obtain ⟨source, inside, rfl⟩ := List.mem_map.1 member
    exact trimEnd_eq_nil.2 (follows.blank source inside)
  have gaps : tidyGap (gap.map trimEnd) = tidyGap gap := by simp [tidyGap]
  refine ⟨collapseEmpty ((before.map trimEnd).dropWhile List.isEmpty),
    dropEmptyEnd (collapseEmpty (after.map trimEnd)), ⟨?_, starts, ends, ?_⟩, ?_, ?_⟩
  · rw [follows.whole, tidyLines, List.map_append, List.map_cons, List.map_append, List.map_cons,
      dropEmpty_append (ne_nil_of_visible starts),
      collapseEmpty_append (ne_nil_of_visible starts),
      collapseEmpty_gap empty (ne_nil_of_visible ends), gaps, ← List.cons_append,
      ← List.append_assoc, dropEmptyEnd_append (ne_nil_of_visible ends), List.append_assoc,
      List.cons_append]
  · intro line member
    unfold tidyGap at member
    split at member
    · cases member
    · rw [List.mem_singleton.1 member]
      rfl
  · rw [collapseEmpty_filter, dropEmpty_filter, List.filter_map, same]
  · rw [dropEmptyEnd_filter, collapseEmpty_filter, List.filter_map, same]

/-! ## Tidy texts -/

theorem splitLines_tidy {text : List Char} (notEmpty : tidyLines (splitLines text) ≠ []) :
    splitLines (tidy text) = tidyLines (splitLines text) := by
  refine splitAt_intercalate ?_ notEmpty
  intro line member
  obtain ⟨source, inside, rfl⟩ := List.mem_map.1 ((tidyLines_sublist _).subset member)
  exact fun broken =>
    not_mem_of_mem_splitAt inside (trimEnd_subset source broken)

theorem tidy_eq_nil {text : List Char} (nothing : tidyLines (splitLines text) = []) :
    tidy text = [] := by
  unfold tidy
  rw [nothing]
  rfl

theorem tidy_tidy (text : List Char) : Tidy (tidy text) := by
  by_cases nothing : tidyLines (splitLines text) = []
  · exact .inl (tidy_eq_nil nothing)
  · right
    rw [splitLines_tidy nothing]
    exact tidyLines_tidy _

/-- Tidying leaves a text as it is exactly if it is tidy. -/
theorem tidy_eq_self {text : List Char} : tidy text = text ↔ Tidy text := by
  constructor
  · intro same
    rw [← same]
    exact tidy_tidy text
  · rintro (rfl | lines)
    · rfl
    · unfold tidy
      rw [tidyLines_eq_self lines]
      exact intercalate_splitAt text

theorem visibleLines_tidy (text : List Char) :
    visibleLines (tidy text) = (visibleLines text).map trimEnd := by
  unfold visibleLines
  rw [← tidyLines_filter]
  by_cases nothing : tidyLines (splitLines text) = []
  · rw [tidy_eq_nil nothing, nothing]
    rfl
  · rw [splitLines_tidy nothing]

theorem ink_joinLines (lines : List (List Char)) : ink (joinLines lines) = lines.flatMap ink := by
  unfold joinLines
  induction lines with
  | nil => rfl
  | cons line rest ih =>
      cases rest with
      | nil => simp
      | cons next rest =>
          have broken : ink ['\n'] = [] := rfl
          rw [List.intercalate_cons_cons, List.flatMap_cons, ← ih]
          simp only [ink, List.filter_append] at broken ⊢
          rw [broken, List.append_nil]

theorem flatMap_ink_filter (lines : List (List Char)) :
    (lines.filter visible).flatMap ink = lines.flatMap ink := by
  induction lines with
  | nil => rfl
  | cons line rest ih =>
      by_cases seen : visible line = true
      · rw [List.filter_cons_of_pos seen, List.flatMap_cons, List.flatMap_cons, ih]
      · have nothing : ink line = [] := ink_eq_nil.2 (Bool.not_eq_true _ ▸ seen)
        rw [List.filter_cons_of_neg seen, List.flatMap_cons, nothing, ih, List.nil_append]

/-- The visible characters of a text are those of its visible lines. -/
theorem ink_eq (text : List Char) : ink text = (visibleLines text).flatMap ink := by
  calc ink text = ink (joinLines (splitLines text)) := by
        rw [joinLines, splitLines, intercalate_splitAt]
    _ = (splitLines text).flatMap ink := ink_joinLines _
    _ = (visibleLines text).flatMap ink := (flatMap_ink_filter _).symm

theorem ink_tidy (text : List Char) : ink (tidy text) = ink text := by
  have same : (fun line => ink (trimEnd line)) = ink := funext ink_trimEnd
  rw [ink_eq, visibleLines_tidy, List.flatMap_map, same, ← ink_eq]

/-! ## One pass over the lines -/

/-- The lines that were written, and the number of blank lines since the last other one. -/
structure Pass where
  written : List (List Char)
  blankRun : Nat

namespace Pass

def start : Pass := ⟨[], 0⟩

/-- A visible line is written. A blank line is written only behind other lines, and only if
it is the first one behind a visible line. -/
def step (pass : Pass) (line : List Char) : Pass :=
  if visible line then ⟨pass.written ++ [line], 0⟩
  else if pass.blankRun = 0 ∧ pass.written ≠ [] then
    ⟨pass.written ++ [line], pass.blankRun + 1⟩
  else ⟨pass.written, pass.blankRun + 1⟩

def run (pass : Pass) (lines : List (List Char)) : Pass := lines.foldl step pass

/-- No blank line is written before the next visible one. -/
def Closed (pass : Pass) : Prop := pass.written = [] ∨ pass.blankRun ≠ 0

instance (pass : Pass) : Decidable pass.Closed := inferInstanceAs (Decidable (_ ∨ _))

theorem run_cons (pass : Pass) (line : List Char) (rest : List (List Char)) :
    pass.run (line :: rest) = (pass.step line).run rest := rfl

theorem step_visible (pass : Pass) {line : List Char} (seen : visible line = true) :
    pass.step line = ⟨pass.written ++ [line], 0⟩ := if_pos seen

theorem step_empty_closed {pass : Pass} (closed : pass.Closed) :
    pass.step [] = ⟨pass.written, pass.blankRun + 1⟩ := by
  unfold Closed at closed
  unfold step
  rw [if_neg (by simp), if_neg (by tauto)]

theorem step_empty_open {pass : Pass} (opened : ¬ pass.Closed) :
    pass.step [] = ⟨pass.written ++ [[]], pass.blankRun + 1⟩ := by
  unfold Closed at opened
  unfold step
  rw [if_neg (by simp), if_pos (by tauto)]

/-- A pass writes the lines with one of several empty ones in a row, and without empty ones
in front if it is closed when it begins. -/
theorem written_run {lines : List (List Char)} (trimmed : ∀ line ∈ lines, Trimmed line)
    (pass : Pass) :
    (pass.run lines).written = pass.written ++
      collapseEmpty (if pass.Closed then lines.dropWhile List.isEmpty else lines) := by
  induction lines generalizing pass with
  | nil => simp [run, collapseEmpty]
  | cons line rest ih =>
      obtain ⟨lineTrimmed, others⟩ := List.forall_mem_cons.1 trimmed
      rw [run_cons, ih others]
      by_cases empty : line = []
      · subst empty
        by_cases closed : pass.Closed
        · have still : Closed ⟨pass.written, pass.blankRun + 1⟩ := .inr (Nat.succ_ne_zero _)
          rw [step_empty_closed closed, if_pos still, if_pos closed,
            List.dropWhile_cons_of_pos rfl]
        · have shut : Closed ⟨pass.written ++ [[]], pass.blankRun + 1⟩ :=
            .inr (Nat.succ_ne_zero _)
          rw [step_empty_open closed, if_pos shut, if_neg closed, collapseEmpty_empty,
            List.append_assoc, List.singleton_append]
      · have opened : ¬ Closed ⟨pass.written ++ [line], 0⟩ := by simp [Closed]
        rw [step_visible pass (lineTrimmed.visible_iff.2 empty), if_neg opened,
          List.dropWhile_cons_of_neg (by simpa using empty), ite_self,
          collapseEmpty_cons empty, List.append_assoc, List.singleton_append]

end Pass

/-- Lines that each end with a line break. -/
def brokenLines (lines : List (List Char)) : List Char := lines.flatMap fun line => line ++ ['\n']

theorem joinLines_concat (before : List (List Char)) (line : List Char) :
    joinLines (before ++ [line]) = brokenLines before ++ line := by
  unfold joinLines brokenLines
  induction before with
  | nil => simp
  | cons first before ih =>
      cases before with
      | nil => simp [List.intercalate_cons_cons]
      | cons next before =>
          rw [List.cons_append, List.cons_append, List.intercalate_cons_cons, ← List.cons_append,
            ih]
          simp only [List.flatMap_cons, List.append_assoc]

theorem brokenLines_append (lines others : List (List Char)) :
    brokenLines (lines ++ others) = brokenLines lines ++ brokenLines others :=
  List.flatMap_append

/-- Empty lines at the end are trimmed off with the last line break. -/
theorem trimEnd_brokenLines {lines : List (List Char)} (trimmed : ∀ line ∈ lines, Trimmed line) :
    trimEnd (brokenLines lines) = joinLines (dropEmptyEnd lines) := by
  have unseen : visible (brokenLines (lines.rtakeWhile List.isEmpty)) = false := by
    rw [visible_eq_false]
    intro char member
    obtain ⟨line, inside, written⟩ := List.mem_flatMap.1 member
    rw [List.isEmpty_iff.1 (List.mem_rtakeWhile_imp inside), List.nil_append,
      List.mem_singleton] at written
    rw [written]
    rfl
  have kept : trimEnd (brokenLines lines) = trimEnd (brokenLines (dropEmptyEnd lines)) := by
    rw [← trimEnd_append unseen (brokenLines (dropEmptyEnd lines)), ← brokenLines_append,
      dropEmptyEnd_eq, List.rdropWhile_append_rtakeWhile]
  rw [kept]
  by_cases nothing : dropEmptyEnd lines = []
  · rw [nothing]
    rfl
  · -- The last line is not empty, so it ends in the last visible character.
    have notEmpty : (dropEmptyEnd lines).getLast nothing ≠ [] :=
      fun empty => List.rdropWhile_last_not List.isEmpty lines nothing (List.isEmpty_iff.2 empty)
    have ends : Trimmed ((dropEmptyEnd lines).getLast nothing) :=
      trimmed _ ((List.rdropWhile_prefix _ _).subset (List.getLast_mem nothing))
    have single (line : List Char) : brokenLines [line] = line ++ ['\n'] :=
      List.flatMap_singleton ..
    have broken : visible ['\n'] = false := rfl
    rw [← List.dropLast_append_getLast nothing, joinLines_concat, brokenLines_append, single,
      ← List.append_assoc, trimEnd_append broken, trimEnd_eq_self]
    intro char last
    rw [List.getLast?_append_of_ne_nil _ notEmpty] at last
    exact ends char last

/-- Tidying is one pass over the trimmed lines. The line break behind the last one that was
written is trimmed off in the end, together with an empty line before it. -/
theorem tidy_eq_pass (text : List Char) :
    tidy text =
      trimEnd (brokenLines (Pass.start.run ((splitLines text).map trimEnd)).written) := by
  have closed : Pass.start.Closed := .inl rfl
  have trimmed : ∀ line ∈ (splitLines text).map trimEnd, Trimmed line :=
    fun line => trimmed_of_mem_map
  have written := Pass.written_run trimmed Pass.start
  rw [if_pos closed] at written
  have still : ∀ line ∈ (Pass.start.run ((splitLines text).map trimEnd)).written,
      Trimmed line := by
    intro line member
    rw [written] at member
    have inside := (collapseEmpty_sublist _).subset member
    exact trimmed line ((List.dropWhile_suffix _).subset inside)
  rw [trimEnd_brokenLines still, written]
  rfl

/-! ## Plain texts -/

theorem toList_plainText (html : String) :
    (plainText html).toList = tidy (decodeEntities (stripTags html.toList)) :=
  String.toList_ofList

theorem follows_tidy {text first second : List Char} {before gap after : List (List Char)}
    (follows : Follows (splitLines text) before first gap second after) :
    ∃ above below,
      Follows (splitLines (tidy text)) above (trimEnd first) (tidyGap gap) (trimEnd second)
        below ∧
      above.filter visible = (before.filter visible).map trimEnd ∧
      below.filter visible = (after.filter visible).map trimEnd := by
  obtain ⟨above, below, still, parts⟩ := follows_tidyLines follows
  have notEmpty : tidyLines (splitLines text) ≠ [] := by
    rw [still.whole]
    simp
  rw [splitLines_tidy notEmpty]
  exact ⟨above, below, still, parts⟩

/-- The plain text of a fragment has the visible lines that the fragment has without its tags
and entities, trimmed and in the same order, so all visible characters are kept. Lines with
nothing between them stay together, other neighbours have one empty line between them, and
the text is tidy. It can be written in one pass that counts blank lines. -/
theorem plainText_keeps_lines (html : String) :
    let source := decodeEntities (stripTags html.toList)
    let result := (plainText html).toList
    visibleLines result = (visibleLines source).map trimEnd ∧
    ink result = ink source ∧
    (∀ before first gap second after,
      Follows (splitLines source) before first gap second after →
      ∃ above below,
        Follows (splitLines result) above (trimEnd first) (tidyGap gap) (trimEnd second)
          below ∧
        above.filter visible = (before.filter visible).map trimEnd ∧
        below.filter visible = (after.filter visible).map trimEnd) ∧
    Tidy result ∧
    tidy result = result ∧
    result =
      trimEnd (brokenLines (Pass.start.run ((splitLines source).map trimEnd)).written) := by
  intro source result
  have tidied : result = tidy source := toList_plainText html
  rw [tidied]
  refine ⟨visibleLines_tidy source, ink_tidy source, ?_, tidy_tidy source, ?_,
    tidy_eq_pass source⟩
  · intro before first gap second after follows
    exact follows_tidy follows
  · exact tidy_eq_self.2 (tidy_tidy source)

/-- Blanks of several kinds between two lines and at the ends of lines. -/
theorem plainText_keeps_lines_of_greeting :
    let html := "<p>Hi&nbsp;</p> \n\t\n  &lt;b&gt;<br>Bye\r\n"
    Follows (splitLines (decodeEntities (stripTags html.toList))) [] "Hi ".toList
        [[' '], ['\t']] "  <b>".toList ["Bye\r".toList, []] ∧
      ∃ above below,
        Follows (splitLines (plainText html).toList) above "Hi".toList [[]] "  <b>".toList
          below ∧
        above.filter visible = [] ∧ below.filter visible = ["Bye".toList] := by
  intro html
  obtain ⟨_, _, neighbours, _⟩ := plainText_keeps_lines html
  have follows : Follows (splitLines (decodeEntities (stripTags html.toList))) []
      "Hi ".toList [[' '], ['\t']] "  <b>".toList ["Bye\r".toList, []] := by
    constructor <;> decide +kernel
  refine ⟨follows, ?_⟩
  obtain ⟨above, below, still, front, back⟩ := neighbours _ _ _ _ _ follows
  have first : trimEnd "Hi ".toList = "Hi".toList := by decide +kernel
  have second : trimEnd "  <b>".toList = "  <b>".toList := by decide +kernel
  rw [first, second] at still
  refine ⟨above, below, still, front, back.trans ?_⟩
  decide +kernel

end BlockMail.Html
