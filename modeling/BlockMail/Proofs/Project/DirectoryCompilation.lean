import BlockMail.Proofs.Project.TemplateOutcomes

/-!
# Compiling a directory

The command for a directory compiles each of its templates, and writes the page of every one
that is accepted. It fails if one of them is not accepted, and for two more reasons: a directory
is taken for a template, or nothing but a dot is left of the name of a template without its
extension.
-/

set_option autoImplicit false

namespace BlockMail.Project

open BlockMail.Project.Path FileTree

section Command

variable {options : CompileOptions} {directory : Path} {config : Config}
  {override : Option Context} {machine : Machine}

theorem on_step {Result : Type} (act : StateM Machine Result) (machine : Machine) :
    InPlace.on (Command.step act) machine = (.ok (act machine).1, (act machine).2) := rfl

theorem on_say (line : String) (machine : Machine) :
    InPlace.on (Command.say line) machine = (.ok (), machine.saying line) := rfl

theorem on_summarise (total failed : Nat) (machine : Machine) :
    ∃ outcome after, InPlace.on (summarise total failed) machine = (outcome, after) ∧
      after.tree = machine.tree ∧ (outcome = .ok () ↔ failed = 0) := by
  unfold summarise
  rw [InPlace.on_bind, on_say]
  dsimp only
  by_cases none : failed = 0
  · rw [if_pos none, on_say]
    exact ⟨_, _, rfl, rfl, by simp [none]⟩
  · rw [if_neg none, InPlace.on_bind, on_say]
    exact ⟨_, _, rfl, rfl, by simp [none]⟩

/-- Where the templates of a project are. -/
def CompileOptions.sourcePath (options : CompileOptions) (directory : Path) (config : Config) :
    Path :=
  directory.join ⟨options.path.getD config.sourceDirectory⟩

/-- Where the output of a project goes. -/
def CompileOptions.targetPath (options : CompileOptions) (directory : Path) (config : Config) :
    Path :=
  directory.join ⟨options.outputDirectory.getD config.outputDirectory⟩

theorem sourcesOf_directory {base : Path} (there : machine.tree.kind? base = some .directory) :
    (sourcesOf base : StateM Machine _) machine =
      ((machine.tree.templateParts base).map (sourceAt base), machine) := by
  have looked : (Files.kind? base : StateM Machine _) machine = (some .directory, machine) :=
    congrArg (·, machine) there
  have other : ¬(some FileKind.directory = some FileKind.file) := by decide
  rw [← findSources_eq]
  unfold sourcesOf
  simp only [bind, StateT.bind, looked, if_neg other]

/-- A machine on which it was said that so many templates are compiled. -/
def Machine.announcing (machine : Machine) (count : Nat) : Machine :=
  (machine.saying "🔨 Compiling templates...").saying ("Found " ++ toString count ++ " files")

/-- The command compiles the templates of its directory, and fails if one of them does. -/
theorem on_compileProject (year : Int) {base out : Path}
    (source : options.sourcePath directory config = base)
    (target : options.targetPath directory config = out)
    (configured : (Config.load directory : StateM Machine _) machine = (.ok config, machine))
    (given : GivenContext machine.tree directory options.contextFile override)
    (there : machine.tree.kind? base = some .directory) :
    let sources := (machine.tree.templateParts base).map (sourceAt base)
    let ended := (compileSources options
      ((projectContext config year).overlay (override.getD .empty)) out sources : StateM Machine _)
      (machine.announcing sources.length)
    ∃ outcome after, InPlace.on (compileProject directory year options) machine = (outcome, after) ∧
      after.tree = ended.2.tree ∧ (outcome = .ok () ↔ ended.1 = 0) := by
  have found : (Files.exists? base : StateM Machine _) machine = (true, machine) := by
    have looked : (Files.kind? base : StateM Machine _) machine = (some .directory, machine) :=
      congrArg (·, machine) there
    simp only [Files.exists?, bind, StateT.bind, looked]
    rfl
  have listed (line : String) : (sourcesOf base : StateM Machine _) (machine.saying line) =
      ((machine.tree.templateParts base).map (sourceAt base), machine.saying line) :=
    sourcesOf_directory there
  unfold CompileOptions.sourcePath at source
  unfold CompileOptions.targetPath at target
  unfold compileProject
  rw [InPlace.on_bind, on_orFail, configured]
  simp only [Except.mapError, source, target]
  rw [InPlace.on_bind, on_step, found]
  dsimp only
  rw [Bool.not_true, if_neg Bool.false_ne_true, InPlace.on_bind, on_loadContext given]
  dsimp only
  rw [InPlace.on_bind, on_say]
  dsimp only
  rw [InPlace.on_bind, on_step, listed]
  dsimp only
  generalize (machine.tree.templateParts base).map (sourceAt base) = sources
  by_cases none : sources.isEmpty = true
  · rw [if_pos none, on_say]
    obtain rfl := List.isEmpty_iff.1 none
    exact ⟨_, _, rfl, rfl, iff_of_true rfl rfl⟩
  · rw [if_neg none, InPlace.on_bind, on_say]
    dsimp only
    rw [InPlace.on_bind, on_step]
    dsimp only
    exact on_summarise _ _ _

/-- The compilation of a directory writes the page of every accepted template, and its text where
that is asked for, whatever becomes of the others, and nothing else but directories on the ways
there. It fails if a template is not accepted, and also if a directory is taken for a template or
nothing but a dot is left of the name of a template without its extension. -/
theorem compileProject_compiles_each (year : Int) {base out : Path} {top : List String}
    (source : options.sourcePath directory config = base)
    (target : options.targetPath directory config = out)
    (configured : (Config.load directory : StateM Machine _) machine = (.ok config, machine))
    (given : GivenContext machine.tree directory options.contextFile override)
    (filing : options.toTerminal = false) (isSource : machine.tree.SourceDirectory base top)
    (compilable : Compilable options machine.tree base top out) :
    let context := (projectContext config year).overlay (override.getD .empty)
    ∃ outcome after,
      InPlace.on (compileProject directory year options) machine = (outcome, after) ∧
      (∀ above stem blocks, machine.tree.AcceptsTemplate top above stem blocks → stem ≠ "." →
        after.tree.read (out.join (ofParts (above ++ [named stem "html"]))) =
            .ok (Html.page blocks context options.page) ∧
          (options.withText = true →
            after.tree.read (out.join (ofParts (above ++ [named stem "txt"]))) =
              .ok (Html.plainPage blocks context))) ∧
      (∀ above stem content otherAbove other otherContent,
        machine.tree.HoldsTemplate top above stem content →
        machine.tree.HoldsTemplate top otherAbove other otherContent →
        outputPath out (sourceAt base (above ++ [named stem templateExtension])) =
            outputPath out (sourceAt base (otherAbove ++ [named other templateExtension])) →
          above = otherAbove ∧ stem = other) ∧
      (∀ place, place ∉ outputWays machine.tree top out →
        place ∉ outputPlaces options machine.tree top out →
          after.tree.get? place = machine.tree.get? place) ∧
      (outcome = .ok () ↔
        (∀ above stem content, machine.tree.HoldsTemplate top above stem content →
          stem ≠ "." ∧ ∃ blocks, readBlocks content = .ok blocks) ∧
        ∀ parts, (top ++ parts, .directory) ∈ machine.tree.entries →
          (sourceAt base parts).isTemplate = false) := by
  intro context
  have there : machine.tree.kind? base = some .directory :=
    kind?_eq_directory.2 ⟨top, isSource.located, isSource.directory⟩
  obtain ⟨outcome, after, ran, left, succeeded⟩ :=
    on_compileProject year source target configured given there
  obtain ⟨last, compiled, laid⟩ := compileSources_templateParts context
    (machine.announcing ((machine.tree.templateParts base).map (sourceAt base)).length)
    isSource compilable filing rfl
  rw [compiled] at left succeeded
  rw [← left] at laid
  refine ⟨outcome, after, ran, ?_, ?_, ?_, ?_⟩
  · intro above stem blocks accepts other
    obtain ⟨content, holds, accepted⟩ := id accepts
    have member := holds.mem_templateParts isSource
    have leaves := leavingOf_accepted options context out isSource.formed holds accepted
    refine read_of_laid (holds.name isSource.formed) (compilable.short accepts)
      (compilable.sound accepts) (fun stop on => laid.made stop ?_) fun file belongs =>
        laid.filed file ?_
    · exact List.mem_flatMap.2 ⟨_, member, by rwa [leaves]⟩
    · refine List.mem_flatMap.2 ⟨_, member, ?_⟩
      rw [leaves, Leaving.ofBlocks, if_neg other]
      exact belongs
  · intro above stem content otherAbove other otherContent holds holdsToo same
    exact outputPath_inj (holds.name isSource.formed) (holdsToo.name isSource.formed) same
  · intro place off elsewhere
    refine laid.kept place (fun on => off ?_) fun there => elsewhere ?_
    · obtain ⟨parts, member, on⟩ := List.mem_flatMap.1 on
      exact (leavingOf_within isSource member).onWays place on
    · rw [List.map_flatMap] at there
      obtain ⟨parts, member, there⟩ := List.mem_flatMap.1 there
      exact (leavingOf_within isSource member).inOutputs place there
  · exact succeeded.trans (none_failed_iff isSource)

/-- A template that is compiled, in a directory below, beside one that is not JSON. -/
theorem compileProject_compiles_each_beside_bad :
    let tree : FileTree := ⟨[(["templates"], .directory), (["templates", "bad.json"], .file "?"),
      (["templates", "news"], .directory), (["templates", "news", "may.json"], .file "[]")]⟩
    let options : CompileOptions := ⟨none, false, none, none, true, false⟩
    let context := (projectContext .standard 2024).overlay .empty
    tree.WellFormed ∧ Compilable options tree ⟨"./templates"⟩ ["templates"] ⟨"./dist"⟩ ∧
    ∃ outcome after,
      InPlace.on (compileProject ⟨"."⟩ 2024 options) (Machine.ofTree tree) = (outcome, after) ∧
      after.tree.read ⟨"./dist/news/may.html"⟩ = .ok (Html.page [] context options.page) ∧
      after.tree.read ⟨"./dist/news/may.txt"⟩ = .ok (Html.plainPage [] context) ∧
      after.tree.get? ["dist", "bad.html"] = none ∧ outcome ≠ .ok () := by
  intro tree options context
  have formed : tree.WellFormed := by decide +kernel
  have source : options.sourcePath ⟨"."⟩ .standard = ⟨"./templates"⟩ := by decide +kernel
  have target : options.targetPath ⟨"."⟩ .standard = ⟨"./dist"⟩ := by decide +kernel
  have located : tree.locate ⟨"./templates"⟩ = .ok ["templates"] := by decide +kernel
  have directory : tree.get? ["templates"] = some .directory := by decide
  have refused : readBlocks "?" = .error .notJson := rfl
  have holdings : ∀ {above stem content}, tree.HoldsTemplate ["templates"] above stem content →
      (above = [] ∧ stem = "bad" ∧ content = "?") ∨
        (above = ["news"] ∧ stem = "may" ∧ content = "[]") := by
    rintro above stem content ⟨filled, there⟩
    simp only [tree, List.cons_append, List.nil_append, List.mem_cons, Prod.mk.injEq,
      List.cons.injEq, true_and, reduceCtorEq, and_false, false_or, Entry.file.injEq,
      List.not_mem_nil, or_false] at there
    rcases there with ⟨same, rfl⟩ | ⟨same, rfl⟩
    · have bad : above ++ [named stem "json"] = [] ++ [named "bad" "json"] := same
      obtain ⟨rfl, rfl, -⟩ := append_named_inj filled (by decide) (by decide) (by decide) bad
      exact .inl ⟨rfl, rfl, rfl⟩
    · have may : above ++ [named stem "json"] = ["news"] ++ [named "may" "json"] := same
      obtain ⟨rfl, rfl, -⟩ := append_named_inj filled (by decide) (by decide) (by decide) may
      exact .inr ⟨rfl, rfl, rfl⟩
  have acceptances : ∀ {above stem blocks}, tree.AcceptsTemplate ["templates"] above stem blocks →
      above = ["news"] ∧ stem = "may" := by
    rintro above stem blocks ⟨content, holds, accepted⟩
    obtain ⟨rfl, rfl, rfl⟩ | ⟨rfl, rfl, rfl⟩ := holdings holds
    · cases refused.symm.trans accepted
    · exact ⟨rfl, rfl⟩
  have free : ∀ extension ∈ options.extensions,
      tree.get? (placeBelow ⟨"./dist"⟩ ["news"] (named "may" extension)) ≠ some .directory ∧
        placeBelow ⟨"./dist"⟩ ["news"] (named "may" extension) ∉
          stops [] (Path.steps ⟨"./dist"⟩ ++ ["news"]) := by decide +kernel
  have compilable : Compilable options tree ⟨"./templates"⟩ ["templates"] ⟨"./dist"⟩ := by
    constructor
    · intro above stem content holds
      obtain ⟨rfl, rfl, rfl⟩ | ⟨rfl, rfl, rfl⟩ := holdings holds
      · decide +kernel
      · decide +kernel
    · intro above stem blocks _
      decide +kernel
    · intro above stem blocks accepts
      obtain ⟨rfl, rfl⟩ := acceptances accepts
      decide +kernel
    · rintro place ⟨above, stem, blocks, accepts, on⟩
      obtain ⟨rfl, rfl⟩ := acceptances accepts
      revert place
      unfold FileTree.Open
      decide +kernel
    · rintro place ⟨above, stem, blocks, accepts, extension, known, rfl⟩
      obtain ⟨rfl, rfl⟩ := acceptances accepts
      exact (free extension known).1
    · rintro place ⟨above, stem, blocks, accepts, on⟩ ⟨_, _, _, acceptsToo, extension, known, rfl⟩
      obtain ⟨rfl, rfl⟩ := acceptances accepts
      obtain ⟨rfl, rfl⟩ := acceptances acceptsToo
      exact (free extension known).2 on
  have holdsBad : tree.HoldsTemplate ["templates"] [] "bad" "?" := ⟨by decide, by decide⟩
  have holdsMay : tree.HoldsTemplate ["templates"] ["news"] "may" "[]" := ⟨by decide, by decide⟩
  have configured : (Config.load ⟨"."⟩ : StateM Machine _) (Machine.ofTree tree) =
      (.ok .standard, Machine.ofTree tree) := rfl
  obtain ⟨outcome, after, ran, pages, -, kept, succeeds⟩ :=
    compileProject_compiles_each 2024 source target configured .none rfl
      ⟨formed, located, directory⟩ compilable
  obtain ⟨html, text⟩ := pages ["news"] "may" [] ⟨_, holdsMay, rfl⟩ (by decide)
  refine ⟨formed, compilable, outcome, after, ran, html, text rfl, ?_, ?_⟩
  · refine kept _ ?_ ?_
    · rintro ⟨above, stem, blocks, accepts, on⟩
      obtain ⟨rfl, rfl⟩ := acceptances accepts
      revert on
      decide +kernel
    · rintro ⟨above, stem, blocks, accepts, extension, known, same⟩
      obtain ⟨rfl, rfl⟩ := acceptances accepts
      revert extension
      decide +kernel
  · intro succeeded
    obtain ⟨-, blocks, accepted⟩ := (succeeds.1 succeeded).1 [] "bad" "?" holdsBad
    cases refused.symm.trans accepted

/-- The only template file is accepted and its page is written, and yet the command fails: the
directory that the file is in is taken for a template. -/
theorem compileProject_fails_on_directory :
    let tree : FileTree := ⟨[(["templates"], .directory), (["templates", "dir.json"], .directory),
      (["templates", "dir.json", "inner.json"], .file "[]")]⟩
    let options : CompileOptions := ⟨none, false, none, none, false, false⟩
    (∀ above stem content, tree.HoldsTemplate ["templates"] above stem content →
      stem = "inner" ∧ ∃ blocks, readBlocks content = .ok blocks) ∧
    ∃ outcome after,
      InPlace.on (compileProject ⟨"."⟩ 2024 options) (Machine.ofTree tree) = (outcome, after) ∧
      (after.tree.read ⟨"./dist/dir.json/inner.html"⟩).isOk = true ∧ outcome ≠ .ok () := by
  intro tree options
  have source : options.sourcePath ⟨"."⟩ .standard = ⟨"./templates"⟩ := by decide +kernel
  have target : options.targetPath ⟨"."⟩ .standard = ⟨"./dist"⟩ := by decide +kernel
  have configured : (Config.load ⟨"."⟩ : StateM Machine _) (Machine.ofTree tree) =
      (.ok .standard, Machine.ofTree tree) := rfl
  have listed : tree.templateParts ⟨"./templates"⟩ =
      [["dir.json"], ["dir.json", "inner.json"]] := by
    rw [templateParts_of_sorted (by decide +kernel)]
    decide +kernel
  obtain ⟨outcome, after, ran, left, succeeded⟩ :=
    on_compileProject 2024 source target configured .none (by decide +kernel)
  have same : (Machine.ofTree tree).tree = tree := rfl
  rw [same, listed] at left succeeded
  refine ⟨?_, outcome, after, ran, ?_, ?_⟩
  · rintro above stem content ⟨filled, there⟩
    simp only [tree, List.cons_append, List.nil_append, List.mem_cons, Prod.mk.injEq,
      List.cons.injEq, true_and, reduceCtorEq, and_false, false_or, Entry.file.injEq,
      List.not_mem_nil, or_false] at there
    obtain ⟨same, rfl⟩ := there
    have inner : above ++ [named stem "json"] = ["dir.json"] ++ [named "inner" "json"] := same
    obtain ⟨-, rfl, -⟩ := append_named_inj filled (by decide) (by decide) (by decide) inner
    exact ⟨rfl, [], rfl⟩
  · rw [left]
    decide +kernel
  · rw [Ne, succeeded]
    decide +kernel

end Command

end BlockMail.Project
