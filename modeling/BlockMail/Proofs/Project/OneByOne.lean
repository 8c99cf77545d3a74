import BlockMail.Proofs.Project.Layout

/-!
# Templates one after the other

What the compilation of one template leaves, and what the compilations of several leave
together when each of them is sure of its outcome as long as no other is in its way. What is
printed meanwhile changes no files.
-/

set_option autoImplicit false

namespace BlockMail.Project

open BlockMail.Project.Path FileTree

/-! ## What a template leaves -/

/-- What the compilation of a template comes to: whether it fails, the places on the way to its
output, and the files that it writes. -/
structure Leaving where
  failed : Bool
  ways : List (List String)
  files : List (List String × String)

/-- A failure before anything is written. -/
def Leaving.nothing : Leaving := ⟨true, [], []⟩

/-- What a template leaves is on some ways and at some places for output. -/
structure Leaving.Within (leaving : Leaving) (ways outputs : Set (List String)) : Prop where
  onWays : ∀ place ∈ leaving.ways, place ∈ ways
  inOutputs : ∀ place ∈ leaving.files.map Prod.fst, place ∈ outputs

/-- The compilation of a template ends and leaves what it comes to. -/
def Comes (options : CompileOptions) (context : Context) (out : Path) (source : Source)
    (machine : Machine) (leaving : Leaving) : Prop :=
  ∃ outcome after, compiled options context out source machine = (outcome, after) ∧
    outcome.isOk = !leaving.failed ∧ Laid leaving.ways leaving.files machine.tree after.tree

section One

variable {options : CompileOptions} {context : Context} {out : Path} {source : Source}
  {machine : Machine} {content : String}

theorem comes_of_unread {fault : FileFault}
    (unread : machine.tree.read source.path = .error fault) :
    Comes options context out source machine .nothing :=
  ⟨_, _, compiled_of_unread unread, rfl, laid_nil machine.tree⟩

theorem comes_of_refused {cause : TemplateError}
    (read : machine.tree.read source.path = .ok content)
    (refused : readBlocks content = .error cause) :
    Comes options context out source machine .nothing :=
  ⟨_, _, compiled_of_refused read refused, rfl, laid_nil machine.tree⟩

theorem comes_of_output {blocks : List Block} {target : Path} {outcome : Except FileFault Unit}
    {files : List (List String × String)} {ways : List (List String)} {after : FileTree}
    (filing : options.toTerminal = false) (goes : outputPath out source = target)
    (read : machine.tree.read source.path = .ok content)
    (accepted : readBlocks content = .ok blocks)
    (wrote : InPlace.on (writeOutput options target (Html.page blocks context options.page)
      (Html.plainPage blocks context)) machine = (outcome, machine.withTree after))
    (laid : Laid ways files machine.tree after) :
    Comes options context out source machine ⟨!outcome.isOk, ways, files⟩ := by
  have ended : compiled options context out source machine = _ := compiled_eq read accepted
  dsimp only at ended
  rw [filing, if_neg Bool.false_ne_true, goes, wrote] at ended
  cases outcome with
  | ok => exact ⟨_, _, ended, rfl, laid⟩
  | error fault => exact ⟨_, _, ended, rfl, laid⟩

end One

/-! ## What does not change -/

/-- What is still so after some templates were compiled: what stood anywhere but where output
goes, and the room for output. -/
structure Steady (ways outputs : Set (List String)) (before after : FileTree) : Prop where
  still : ∀ {place entry}, before.get? place = some entry → place ∉ outputs →
    after.get? place = some entry
  passable : ∀ place ∈ ways, after.Open place
  free : ∀ place ∈ outputs, after.get? place ≠ some .directory

namespace Steady

variable {ways outputs : Set (List String)} {before middle after : FileTree} {leaving : Leaving}
  {place : List String}

theorem laid (steady : Steady ways outputs before middle)
    (laid : Laid leaving.ways leaving.files middle after) (within : leaving.Within ways outputs)
    (apart : ∀ place ∈ ways, place ∉ outputs) : Steady ways outputs before after := by
  refine ⟨fun there elsewhere => ?_, fun place on => ?_, fun place output => ?_⟩
  · exact laid.still (fun place on => steady.passable place (within.onWays place on))
      (steady.still there elsewhere) (mt (within.inOutputs _) elsewhere)
  · exact laid.open (steady.passable place on) (mt (within.inOutputs _) (apart place on))
  · exact laid.free (steady.free place output)
      fun on => apart place (within.onWays place on) output

theorem directory (steady : Steady ways outputs before after)
    (free : ∀ place ∈ outputs, before.get? place ≠ some .directory)
    (there : before.get? place = some .directory) : after.get? place = some .directory :=
  steady.still there fun output => free place output there

theorem read {path : Path} {content : String} (steady : Steady ways outputs before after)
    (free : ∀ place ∈ outputs, before.get? place ≠ some .directory)
    (read : before.read path = .ok content)
    (elsewhere : ∀ place, before.locate path = .ok place → place ∉ outputs) :
    after.read path = .ok content := by
  obtain ⟨place, located, there⟩ := read_eq_ok.1 read
  obtain ⟨sound, followed⟩ := locate_eq_ok.1 located
  have still := follow_of_kept (fun _ => steady.directory free) followed
  exact read_eq_ok.2 ⟨place, locate_eq_ok.2 ⟨sound, still⟩,
    steady.still there (elsewhere place located)⟩

end Steady

/-! ## All of them -/

section Run

variable {options : CompileOptions} {context : Context} {base out : Path} {tree : FileTree}
  {ways outputs : Set (List String)} {machine : Machine}

/-- The report on a template changes no files. -/
theorem compileSources_cons (options : CompileOptions) (context : Context) (out : Path)
    (source : Source) (rest : List Source) (machine : Machine) :
    ∃ noted, noted.tree = (compiled options context out source machine).2.tree ∧
      (compileSources options context out (source :: rest) : StateM Machine _) machine =
        let ended := (compileSources options context out rest : StateM Machine _) noted
        let failed := if (compiled options context out source machine).1.isOk then 0 else 1
        (ended.1 + failed, ended.2) := by
  have step : (compileSource options context out source : StateM Machine _) machine =
      compiled options context out source machine := rfl
  simp only [compileSources, bind, StateT.bind, step]
  rcases compiled options context out source machine with ⟨cause | target, after⟩
  · let line := "  ✗ " ++ source.relative.text ++ " - " ++ cause.message
    exact ⟨{ after with complained := after.complained ++ (line ++ "\n") }, rfl, rfl⟩
  · exact ⟨after.saying ("  ✓ " ++ source.relative.text ++ " → " ++ target), rfl, rfl⟩

/-- Templates that come to what they leave as long as nothing was written but what other
templates leave, leave all of it together. -/
theorem compileSources_leaves {leaving : List String → Leaving} {all : List (List String)}
    (apart : ∀ place ∈ ways, place ∉ outputs)
    (within : ∀ parts ∈ all, (leaving parts).Within ways outputs)
    (distinct : all.Pairwise fun first second =>
      ∀ place ∈ (leaving first).files.map Prod.fst, place ∉ (leaving second).files.map Prod.fst)
    (each : ∀ parts ∈ all, ∀ now : Machine, Steady ways outputs tree now.tree →
      Comes options context out (sourceAt base parts) now (leaving parts))
    (steady : Steady ways outputs tree machine.tree) :
    ∃ after, (compileSources options context out (all.map (sourceAt base)) : StateM Machine _)
        machine = (all.countP fun parts => (leaving parts).failed, after) ∧
      Laid (all.flatMap fun parts => (leaving parts).ways)
        (all.flatMap fun parts => (leaving parts).files) machine.tree after.tree := by
  induction all generalizing machine with
  | nil => exact ⟨machine, rfl, laid_nil machine.tree⟩
  | cons parts rest ih =>
      obtain ⟨withinFirst, withinRest⟩ := List.forall_mem_cons.1 within
      obtain ⟨first, eachRest⟩ := List.forall_mem_cons.1 each
      obtain ⟨distinctFirst, distinctRest⟩ := List.pairwise_cons.1 distinct
      obtain ⟨outcome, middle, ended, reported, laid⟩ := first machine steady
      obtain ⟨noted, same, onward⟩ := compileSources_cons options context out
        (sourceAt base parts) (rest.map (sourceAt base)) machine
      rw [ended] at same onward
      have steadyNext : Steady ways outputs tree noted.tree := by
        rw [same]
        exact steady.laid laid withinFirst apart
      obtain ⟨after, ran, laidRest⟩ := ih withinRest distinctRest eachRest steadyNext
      rw [same] at laidRest
      refine ⟨after, ?_, ?_⟩
      · rw [List.map_cons, onward, ran, List.countP_cons]
        cases failed : (leaving parts).failed <;> simp [reported, failed]
      · have onWays := List.forall_mem_flatMap.2 fun other member => (within other member).onWays
        have inOutputs :=
          List.forall_mem_flatMap.2 fun other member => (within other member).inOutputs
        rw [← List.map_flatMap] at inOutputs
        rw [List.flatMap_cons] at onWays inOutputs
        rw [List.flatMap_cons, List.flatMap_cons]
        refine laid.trans laidRest ?_ fun place on there =>
          apart place (onWays place on) (inOutputs place there)
        intro place here
        rw [List.map_flatMap, List.mem_flatMap, not_exists]
        exact fun other later => distinctFirst other later.1 place here later.2

end Run

end BlockMail.Project
