import Mathlib.Data.List.Nodup
import BlockMail.Proofs.Keyed.Lookup
import BlockMail.Proofs.Project.Outputs

/-!
# The templates of a directory

What is found below a directory and taken for a template: every file whose name is a stem that
is not empty and the extension of templates, and every directory with such a name.
-/

set_option autoImplicit false

namespace BlockMail.Project

open BlockMail.Project.Path

namespace FileTree

variable {tree : FileTree} {path : Path} {top place parts : List String} {entry : Entry}

/-- The entries of a tree are at places that names lead to, and at most one is at each. -/
structure WellFormed (tree : FileTree) : Prop where
  below : ∀ entry ∈ tree.entries, entry.1 ≠ []
  isNames : ∀ entry ∈ tree.entries, ∀ name ∈ entry.1, IsName name
  distinct : (tree.entries.map Prod.fst).Nodup

instance (tree : FileTree) : Decidable tree.WellFormed :=
  decidable_of_iff
    ((∀ entry ∈ tree.entries, entry.1 ≠ []) ∧
      (∀ entry ∈ tree.entries, ∀ name ∈ entry.1, IsName name) ∧
      (tree.entries.map Prod.fst).Nodup)
    ⟨fun ⟨below, isNames, distinct⟩ => ⟨below, isNames, distinct⟩,
      fun ⟨below, isNames, distinct⟩ => ⟨below, isNames, distinct⟩⟩

theorem WellFormed.get? (formed : tree.WellFormed) (there : (place, entry) ∈ tree.entries) :
    tree.get? place = some entry := by
  have below : ¬place.isEmpty = true := by simpa using formed.below _ there
  unfold FileTree.get?
  rw [if_neg below, Keyed.lookup_of_mem formed.distinct there]

theorem partsBehind?_eq_some : partsBehind? top place = some parts ↔ top ++ parts = place := by
  induction top generalizing place with
  | nil => simp [partsBehind?, eq_comm]
  | cons part rest ih =>
      cases place with
      | nil => simp [partsBehind?]
      | cons next others => simp [partsBehind?, ih]

theorem mem_below (located : tree.locate path = .ok top) :
    parts ∈ tree.below path ↔ ∃ entry, (top ++ parts, entry) ∈ tree.entries := by
  simp [below, located, partsBehind?_eq_some]

theorem WellFormed.nodup_below (formed : tree.WellFormed) (path : Path) :
    (tree.below path).Nodup := by
  unfold FileTree.below
  cases tree.locate path with
  | error fault => exact List.nodup_nil
  | ok top =>
      refine List.Nodup.filterMap ?_ formed.distinct
      intro first second rest behind behindToo
      rw [← partsBehind?_eq_some.1 behind, ← partsBehind?_eq_some.1 behindToo]

/-- The parts that lead from a directory to what is taken for a template, in order. -/
def templateParts (tree : FileTree) (path : Path) : List (List String) :=
  ((tree.below path).mergeSort fun first second =>
    !second.lex first fun part other => decide (part < other)).filter
      fun parts => (sourceAt path parts).isTemplate

theorem mem_templateParts (located : tree.locate path = .ok top) :
    parts ∈ tree.templateParts path ↔
      (∃ entry, (top ++ parts, entry) ∈ tree.entries) ∧
        (sourceAt path parts).isTemplate = true := by
  rw [templateParts, List.mem_filter, List.mem_mergeSort, mem_below located]

theorem templateParts_of_sorted
    (sorted : (tree.below path).Pairwise fun first second =>
      (!second.lex first fun part other => decide (part < other)) = true) :
    tree.templateParts path =
      (tree.below path).filter fun parts => (sourceAt path parts).isTemplate := by
  rw [templateParts, List.mergeSort_of_pairwise sorted]

theorem WellFormed.nodup_templateParts (formed : tree.WellFormed) (path : Path) :
    (tree.templateParts path).Nodup :=
  ((List.mergeSort_perm _ _).nodup_iff.2 (formed.nodup_below path)).filter _

end FileTree

theorem findSources_eq (path : Path) (machine : Machine) :
    (findSources path : StateM Machine _) machine =
      ((machine.tree.templateParts path).map (sourceAt path), machine) := by
  rw [FileTree.templateParts]
  change ((List.map (sourceAt path) _).filter Source.isTemplate, machine) = _
  rw [List.filter_map]
  rfl

/-! ## Names of templates -/

theorem splitExtension_named {stem extension : String} (filled : stem ≠ "")
    (undotted : '.' ∉ extension.toList) :
    splitExtension (named stem extension) = (stem, some extension) := by
  have left : stem.toList ≠ [] := mt String.toList_eq_nil_iff.1 filled
  have split := splitExtension_append left undotted
  rwa [← toList_named, String.ofList_toList, String.ofList_toList, String.ofList_toList] at split

theorem append_named_inj {above otherAbove : List String} {stem other extension another : String}
    (filled : stem ≠ "") (filledToo : other ≠ "") (undotted : '.' ∉ extension.toList)
    (undottedToo : '.' ∉ another.toList)
    (same : above ++ [named stem extension] = otherAbove ++ [named other another]) :
    above = otherAbove ∧ stem = other ∧ extension = another := by
  obtain ⟨aboves, names⟩ := List.append_inj' same rfl
  have split := splitExtension_named filled undotted
  rw [List.singleton_inj.1 names, splitExtension_named filledToo undottedToo] at split
  obtain ⟨stems, extensions⟩ := Prod.mk.inj split
  exact ⟨aboves, stems.symm, (Option.some.inj extensions).symm⟩

theorem eq_named_of_splitExtension {name extension : String}
    (split : (splitExtension name).2 = some extension) :
    ∃ stem, stem ≠ "" ∧ name = named stem extension := by
  unfold splitExtension at split
  cases cut : Text.splitAtLast? '.' name.toList with
  | none => simp [cut] at split
  | some halves =>
      obtain ⟨stem, rest⟩ := halves
      have joined := Text.eq_append_of_splitAtLast? cut
      by_cases empty : stem.isEmpty = true
      · simp [cut, empty] at split
      · obtain rfl : String.ofList rest = extension := by simpa [cut, empty] using split
        refine ⟨String.ofList stem, by simpa using empty, ?_⟩
        rw [← String.toList_inj, toList_named, String.toList_ofList, String.toList_ofList, joined]

section Sources

variable {base : Path} {above : List String} {name : String}

theorem fileName?_join (isAbove : ∀ part ∈ above, IsName part) (isName : IsName name) :
    (base.join (ofParts (above ++ [name]))).fileName? = some name := by
  have other : name.toList ≠ ['.', '.'] :=
    fun same => isName.moving.2 (String.toList_inj.1 same)
  rw [(join_ends base isAbove isName).fileName? isName.moves, if_neg other, String.ofList_toList]

theorem sourceAt_below (base : Path) (above : List String) (name : String) :
    sourceAt base (above ++ [name]) =
      ⟨base.join (ofParts (above ++ [name])), ofParts (above ++ [name])⟩ := by
  simp [sourceAt]

/-- What is below a directory is taken for a template by its name. -/
theorem isTemplate_below (isAbove : ∀ part ∈ above, IsName part) (isName : IsName name) :
    (sourceAt base (above ++ [name])).isTemplate = true ↔
      ∃ stem, stem ≠ "" ∧ name = named stem templateExtension := by
  rw [sourceAt_below, Source.isTemplate, extension?, fileName?_join isAbove isName, beq_iff_eq]
  constructor
  · exact eq_named_of_splitExtension
  · rintro ⟨stem, filled, rfl⟩
    rw [Option.bind_some, splitExtension_named filled (by decide)]

/-- The path of a template leads to the parts below its directory, in every tree. -/
theorem place_of_sourceAt {tree other : FileTree} {top place parts : List String}
    (located : tree.locate base = .ok top) (isNames : ∀ part ∈ parts, IsName part)
    (found : other.locate (sourceAt base parts).path = .ok place) : place = top ++ parts := by
  have leads := FileTree.reach_of_locate located
  rw [← FileTree.reach_of_locate found]
  rcases List.eq_nil_or_concat' parts with rfl | ⟨above, name, rfl⟩
  · rw [List.append_nil, ← leads]
    rfl
  · obtain ⟨isAbove, isName⟩ := List.forall_mem_append.1 isNames
    rw [sourceAt_below, steps_join base isAbove (by simpa using isName), List.append_assoc,
      FileTree.reach_append, leads, IsName.reach_eq isNames]

end Sources

/-! ## Files and what they hold -/

namespace FileTree

variable {tree : FileTree} {base : Path} {top above parts : List String} {stem content : String}

/-- A path leads to a directory of a well-formed tree. -/
structure SourceDirectory (tree : FileTree) (base : Path) (top : List String) : Prop where
  formed : tree.WellFormed
  located : tree.locate base = .ok top
  directory : tree.get? top = some .directory

/-- A file below a place whose name has the extension of templates. -/
def HoldsTemplate (tree : FileTree) (top above : List String) (stem content : String) : Prop :=
  stem ≠ "" ∧ (top ++ (above ++ [named stem templateExtension]), .file content) ∈ tree.entries

/-- A template below a place whose blocks are read. -/
def AcceptsTemplate (tree : FileTree) (top above : List String) (stem : String)
    (blocks : List Block) : Prop :=
  ∃ content, tree.HoldsTemplate top above stem content ∧ readBlocks content = .ok blocks

theorem HoldsTemplate.name (formed : tree.WellFormed)
    (holds : tree.HoldsTemplate top above stem content) : TemplateName above stem := by
  have isNames := formed.isNames _ holds.2
  refine ⟨fun part member => isNames part ?_, isNames _ ?_, holds.1⟩
  · simp [member]
  · simp

theorem HoldsTemplate.mem_templateParts (source : tree.SourceDirectory base top)
    (holds : tree.HoldsTemplate top above stem content) :
    above ++ [named stem templateExtension] ∈ tree.templateParts base := by
  obtain ⟨isAbove, isName, filled⟩ := holds.name source.formed
  exact (FileTree.mem_templateParts source.located).2
    ⟨⟨_, holds.2⟩, (isTemplate_below isAbove isName).2 ⟨stem, filled, rfl⟩⟩

/-- What is taken for a template is a directory or a file with the extension. -/
theorem SourceDirectory.templateParts_cases (source : tree.SourceDirectory base top)
    (member : parts ∈ tree.templateParts base) :
    (top ++ parts, .directory) ∈ tree.entries ∨
      ∃ above stem content, parts = above ++ [named stem templateExtension] ∧
        tree.HoldsTemplate top above stem content := by
  obtain ⟨formed, located, directory⟩ := source
  obtain ⟨⟨entry, there⟩, taken⟩ := (mem_templateParts located).1 member
  cases entry with
  | directory => exact .inl there
  | file content =>
      rcases List.eq_nil_or_concat' parts with rfl | ⟨above, name, rfl⟩
      · rw [List.append_nil] at there
        cases directory.symm.trans (formed.get? there)
      · have isNames := formed.isNames _ there
        have isAbove : ∀ part ∈ above, IsName part :=
          fun part member => isNames part (by simp [member])
        obtain ⟨stem, filled, rfl⟩ := (isTemplate_below isAbove (isNames name (by simp))).1 taken
        exact .inr ⟨above, stem, content, rfl, filled, there⟩

end FileTree

/-! ## Output paths -/

section Output

variable {options : CompileOptions} {base out : Path} {above : List String} {stem : String}

theorem undotted_of_mem_extensions {extension : String} (member : extension ∈ options.extensions) :
    '.' ∉ extension.toList ∧ extension ≠ templateExtension := by
  have either : extension = "html" ∨ extension = "txt" := by
    unfold CompileOptions.extensions at member
    split_ifs at member <;> simp_all
  rcases either with rfl | rfl <;> decide

theorem placeBelow_inj {other : String} {otherAbove : List String} {extension another : String}
    (isTemplate : TemplateName above stem) (isTemplateToo : TemplateName otherAbove other)
    (member : extension ∈ options.extensions) (memberToo : another ∈ options.extensions)
    (same : placeBelow out above (named stem extension) =
      placeBelow out otherAbove (named other another)) : above = otherAbove ∧ stem = other := by
  unfold placeBelow at same
  rw [FileTree.reach_append, FileTree.reach_append, IsName.reach_eq isTemplate.isAbove,
    IsName.reach_eq isTemplateToo.isAbove, List.append_assoc, List.append_assoc] at same
  obtain ⟨aboves, stems, -⟩ := append_named_inj isTemplate.filled isTemplateToo.filled
    (undotted_of_mem_extensions member).1 (undotted_of_mem_extensions memberToo).1
    (List.append_cancel_left same)
  exact ⟨aboves, stems⟩

theorem outputPath_named (isTemplate : TemplateName above stem) (other : stem ≠ ".")
    (base out : Path) :
    outputPath out (sourceAt base (above ++ [named stem templateExtension])) =
      out.join (ofParts (above ++ [named stem "html"])) := by
  rw [sourceAt_below]
  exact join_withExtension out isTemplate.isAbove isTemplate.isName isTemplate.isPage
    isTemplate.filled other (by decide) (by decide)

/-- Without its extension, a template may be named like the directory above. -/
theorem outputPath_above (isTemplate : TemplateName above ".") (base out : Path) :
    ∃ output, outputPath out (sourceAt base (above ++ [named "." templateExtension])) = output ∧
      output.Ends (out.opened ++ slashed above) ['.', '.'] ∧ output.fileName? = none := by
  have ends := join_ends out isTemplate.isAbove isTemplate.isName
  rw [toList_named] at ends
  obtain ⟨kept, nameless⟩ := ends.withExtension_above "html" (by decide) (by decide)
  refine ⟨_, ?_, kept, nameless⟩
  rw [sourceAt_below]
  rfl

theorem fault?_above (isTemplate : TemplateName above ".") {output : Path}
    (ends : output.Ends (out.opened ++ slashed above) ['.', '.'])
    (sound : (out.join (ofParts (above ++ [named "." "html"]))).fault? = none) :
    output.fault? = none := by
  have whole := toList_join out isTemplate.isAbove isTemplate.isPage
  have front : output = ⟨String.ofList (out.opened ++ slashed above ++ ['.', '.'])⟩ := by
    rw [← ends.text, String.ofList_toList]
  have longer : (out.join (ofParts (above ++ [named "." "html"]))).text.toList =
      (out.opened ++ slashed above ++ ['.', '.']) ++ "html".toList := by
    rw [whole, toList_named]
    simp
  rw [front]
  exact FileTree.fault?_of_front longer (by simp) sound

/-- No two templates have the path of their output in common. -/
theorem outputPath_inj {other : String} {otherAbove : List String}
    (isTemplate : TemplateName above stem) (isTemplateToo : TemplateName otherAbove other)
    (same : outputPath out (sourceAt base (above ++ [named stem templateExtension])) =
      outputPath out (sourceAt base (otherAbove ++ [named other templateExtension]))) :
    above = otherAbove ∧ stem = other := by
  have steps {above : List String} {stem : String} (isTemplate : TemplateName above stem) :
      (outputPath out (sourceAt base (above ++ [named stem templateExtension]))).steps =
        out.steps ++ above ++ [if stem = "." then ".." else named stem "html"] := by
    split_ifs with dot
    · subst dot
      obtain ⟨output, goes, ends, -⟩ := outputPath_above isTemplate base out
      rw [goes, ends.steps, moves_front out isTemplate.isAbove]
      rfl
    · rw [outputPath_named isTemplate dot, steps_join out isTemplate.isAbove isTemplate.isPage]
  have along := steps isTemplate
  rw [same, steps isTemplateToo, List.append_assoc, List.append_assoc] at along
  have behind := List.append_cancel_left along
  split_ifs at behind with first second second
  · exact ⟨(List.append_inj_left' behind rfl).symm, by rw [first, second]⟩
  · exact absurd (List.singleton_inj.1 (List.append_inj_right' behind rfl)).symm
      isTemplate.isPage.moving.2
  · exact absurd (List.singleton_inj.1 (List.append_inj_right' behind rfl))
      isTemplateToo.isPage.moving.2
  · obtain ⟨aboves, stems, -⟩ := append_named_inj isTemplateToo.filled isTemplate.filled
      (by decide) (by decide) behind
    exact ⟨aboves.symm, stems.symm⟩

end Output

end BlockMail.Project
