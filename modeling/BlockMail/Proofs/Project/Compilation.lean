import BlockMail.Proofs.InPlace
import BlockMail.Proofs.Project.Places
import BlockMail.Project.Compile

/-!
# What a compilation leaves

A template whose file is read and whose blocks are accepted is compiled to a page that is
printed, or to a file for the page and another for its text. The values for placeholders
are those of the project, with those of a file on top.
-/

set_option autoImplicit false

namespace BlockMail.Project

namespace Machine

variable {machine after : Machine} {path : Path} {content : String}

/-- The machine with another file tree. -/
def withTree (machine : Machine) (tree : FileTree) : Machine := { machine with tree := tree }

/-- The machine with one more line printed. -/
def saying (machine : Machine) (line : String) : Machine :=
  { machine with printed := machine.printed ++ (line ++ "\n") }

theorem change_eq (apply : FileTree → Except FileFault FileTree) (machine : Machine) :
    change apply machine =
      match apply machine.tree with
      | .ok tree => (.ok (), machine.withTree tree)
      | .error fault => (.error fault, machine) := by
  simp only [change, bind, StateT.bind, get, getThe, MonadStateOf.get, StateT.get, pure]
  cases apply machine.tree <;> rfl

theorem on_write_eq_ok :
    InPlace.on (ExceptT.mk (Files.write path content)) machine = (.ok (), after) ↔
      ∃ tree, machine.tree.write path content = .ok tree ∧ machine.withTree tree = after := by
  change change (fun tree => tree.write path content) machine = _ ↔ _
  rw [change_eq]
  cases machine.tree.write path content with
  | error fault =>
      constructor
      · intro same
        cases same
      · rintro ⟨_, ⟨⟩, _⟩
  | ok tree =>
      constructor
      · exact fun same => ⟨tree, rfl, congrArg Prod.snd same⟩
      · rintro ⟨_, ⟨⟩, rfl⟩
        rfl

theorem makeDirectory_eq (path : Path) (machine : Machine) :
    (Files.makeDirectory path : StateM Machine _) machine =
      match machine.tree.makeDirectory path with
      | .ok tree => (.ok (), machine.withTree tree)
      | .error fault => (.error fault, machine) :=
  change_eq (fun tree => tree.makeDirectory path) machine

/-- A directory that is there already is not made, and that is no fault. -/
theorem makeDirectory_of_directory (there : machine.tree.kind? path = some .directory) :
    (Files.makeDirectory path : StateM Machine _) machine = (.error .alreadyThere, machine) ∧
      (Files.unlessDirectory path .alreadyThere : StateM Machine _) machine = (.ok (), machine) := by
  have looked : (Files.kind? path : StateM Machine _) machine = (some .directory, machine) :=
    congrArg (·, machine) there
  constructor
  · rw [makeDirectory_eq, FileTree.makeDirectory_of_directory there]
  · simp only [Files.unlessDirectory, bind, StateT.bind, looked, if_true]
    rfl

theorem makeNested_of_directory (there : machine.tree.kind? path = some .directory)
    (above : List Path) :
    (Files.makeNested (path :: above) : StateM Machine _) machine = (.ok (), machine) := by
  obtain ⟨refused, excused⟩ := makeDirectory_of_directory there
  rw [Files.makeNested]
  simp only [bind, StateT.bind, refused, excused]

theorem on_makeDirectories (there : path.text.isEmpty = true ∨
    machine.tree.kind? path = some .directory) :
    InPlace.on (ExceptT.mk (Files.makeDirectories path)) machine = (.ok (), machine) := by
  change (Files.makeDirectories path : StateM Machine _) machine = _
  by_cases nothing : path.text.isEmpty = true
  · rw [Files.makeDirectories, if_pos nothing]
    rfl
  · obtain ⟨above, ancestors⟩ : ∃ above, path.ancestors = path :: above := by
      rw [Path.ancestors]
      split <;> simp
    rw [Files.makeDirectories, if_neg nothing, ancestors,
      makeNested_of_directory (there.resolve_left nothing)]

end Machine

/-! ## Writing the output -/

section Output

variable {options : CompileOptions} {output : Path} {html text : String}
  {machine after : Machine}

/-- The path of the text of a mail, beside its page. -/
def textPath (output : Path) : Path := output.withExtension "txt"

/-- There is room for the output of a template in a directory that is there. -/
structure CompileOptions.HasRoom (options : CompileOptions) (output : Path) (tree : FileTree) :
    Prop where
  parent : ∀ above, output.parent? = some above →
    above.text.isEmpty = true ∨ tree.kind? above = some .directory
  page : tree.Writable output
  text : options.withText = true → tree.Writable (textPath output)

/-- Sees to the directory of a file. -/
def makeParent (output : Path) : InPlace Machine FileFault Unit :=
  match output.parent? with
  | some parent => ExceptT.mk (Files.makeDirectories parent)
  | none => pure ()

/-- The files of a template, once their directory is there. -/
def writeFiles (options : CompileOptions) (output : Path) (html text : String) :
    InPlace Machine FileFault Unit := do
  ExceptT.mk (Files.write output html)
  if options.withText then ExceptT.mk (Files.write (textPath output) text)

theorem writeOutput_eq : writeOutput options output html text =
    (do makeParent output; writeFiles options output html text) := by
  unfold writeOutput makeParent
  cases output.parent? <;> rfl

theorem read_of_writeOutput {path : Path}
    (done : InPlace.on (writeOutput options (path.withExtension "html") html text) machine =
      (.ok (), after)) :
    after.tree.read (path.withExtension "html") = .ok html ∧
      (options.withText = true →
        after.tree.read (textPath (path.withExtension "html")) = .ok text) := by
  rw [writeOutput_eq] at done
  obtain ⟨_, middle, -, done⟩ := InPlace.on_bind_eq_ok.1 done
  obtain ⟨_, _, wrote, done⟩ := InPlace.on_bind_eq_ok.1 done
  obtain ⟨tree, written, rfl⟩ := Machine.on_write_eq_ok.1 wrote
  by_cases asked : options.withText = true
  · rw [if_pos asked] at done
    obtain ⟨last, besides, rfl⟩ := Machine.on_write_eq_ok.1 done
    exact ⟨FileTree.read_of_extension_write (by decide) (by decide) (by decide) (by decide)
      written besides, fun _ => FileTree.read_of_write besides⟩
  · rw [if_neg asked, InPlace.on_pure] at done
    obtain ⟨-, rfl⟩ := Prod.mk.inj done
    exact ⟨FileTree.read_of_write written, fun also => absurd also asked⟩

theorem CompileOptions.HasRoom.writeOutput (room : options.HasRoom output machine.tree)
    (html text : String) :
    ∃ after, InPlace.on (writeOutput options output html text) machine = (.ok (), after) := by
  have stays : (makeParent output).on machine = (.ok (), machine) := by
    unfold makeParent
    cases found : output.parent? with
    | none => rfl
    | some above => exact Machine.on_makeDirectories (room.parent above found)
  obtain ⟨tree, written⟩ := room.page.exists_write html
  have paged := Machine.on_write_eq_ok.2 ⟨tree, written, rfl⟩
  rw [writeOutput_eq, InPlace.on_bind, stays]
  dsimp only
  unfold writeFiles
  rw [InPlace.on_bind, paged]
  dsimp only
  by_cases asked : options.withText = true
  · rw [if_pos asked]
    obtain ⟨last, besides⟩ := ((room.text asked).of_write written).exists_write text
    exact ⟨_, Machine.on_write_eq_ok.2 ⟨last, besides, rfl⟩⟩
  · rw [if_neg asked]
    exact ⟨_, rfl⟩

end Output

/-! ## One template -/

section Template

variable {options : CompileOptions} {context : Context} {outputDirectory : Path}
  {source : Source} {content : String} {blocks : List Block} {machine after : Machine}

/-- Compiles a template on a machine. -/
def compiled (options : CompileOptions) (context : Context) (outputDirectory : Path)
    (source : Source) (machine : Machine) : Except TemplateError String × Machine :=
  (compileSource options context outputDirectory source : StateM Machine _).run machine

theorem compiled_eq (read : machine.tree.read source.path = .ok content)
    (accepted : readBlocks content = .ok blocks) :
    compiled options context outputDirectory source machine =
      let html := Html.page blocks context options.page
      let output := outputPath outputDirectory source
      if options.toTerminal then (.ok "stdout", machine.saying html)
      else
        match InPlace.on (writeOutput options output html (Html.plainPage blocks context))
          machine with
        | (.ok (), after) => (.ok output.text, after)
        | (.error fault, after) => (.error (.file fault), after) := by
  have looked : (Files.read source.path : StateM Machine _) machine = (.ok content, machine) :=
    congrArg (·, machine) read
  unfold compiled compileSource
  simp only [StateT.run, bind, StateT.bind, looked, accepted]
  by_cases printing : options.toTerminal = true
  · simp only [if_pos printing]
    rfl
  · simp only [if_neg printing]
    -- what is written, and where, has no part in how its outcome is reported
    generalize outputPath outputDirectory source = output
    generalize Html.page blocks context options.page = html
    generalize Html.plainPage blocks context = text
    simp only [StateT.bind, bind, InPlace.on, StateT.run]
    generalize writeOutput (m := StateM Machine) options output html text = steps
    cases steps.run machine with
    | mk outcome after => cases outcome <;> rfl

theorem compiled_of_unread {fault : FileFault}
    (unread : machine.tree.read source.path = .error fault) :
    compiled options context outputDirectory source machine = (.error (.file fault), machine) := by
  have looked : (Files.read source.path : StateM Machine _) machine = (.error fault, machine) :=
    congrArg (·, machine) unread
  unfold compiled compileSource
  simp only [StateT.run, bind, StateT.bind, looked]
  rfl

theorem compiled_of_refused {cause : TemplateError}
    (read : machine.tree.read source.path = .ok content)
    (refused : readBlocks content = .error cause) :
    compiled options context outputDirectory source machine = (.error cause, machine) := by
  have looked : (Files.read source.path : StateM Machine _) machine = (.ok content, machine) :=
    congrArg (·, machine) read
  unfold compiled compileSource
  simp only [StateT.run, bind, StateT.bind, looked, refused]
  rfl

/-- What the compilation of a template comes to that reads `html` in a mail, and `text`
where mail is plain. Only files can stand in its way. -/
structure Compiles (options : CompileOptions) (context : Context) (outputDirectory : Path)
    (source : Source) (machine : Machine) (html text : String) : Prop where
  printed : options.toTerminal = true → options.compact = false →
    compiled options context outputDirectory source machine =
      (.ok "stdout", machine.saying html)
  written : options.toTerminal = false → ∀ target after,
    compiled options context outputDirectory source machine = (.ok target, after) →
      let output := outputPath outputDirectory source
      target = output.text ∧
        (options.compact = false → after.tree.read output = .ok html) ∧
        (options.withText = true → after.tree.read (textPath output) = .ok text)
  succeeds : options.toTerminal = false →
    options.HasRoom (outputPath outputDirectory source) machine.tree →
      ∃ after, compiled options context outputDirectory source machine =
        (.ok (outputPath outputDirectory source).text, after)
  fails : ∀ cause after,
    compiled options context outputDirectory source machine = (.error cause, after) →
      ∃ fault, cause = .file fault

theorem page_of_pretty (pretty : options.compact = false) : options.page = .default := by
  simp [CompileOptions.page, Html.PageOptions.default, pretty]

theorem compiles (read : machine.tree.read source.path = .ok content)
    (accepted : readBlocks content = .ok blocks) (options : CompileOptions)
    (context : Context) (outputDirectory : Path) :
    Compiles options context outputDirectory source machine
      (Html.page blocks context .default) (Html.plainPage blocks context) := by
  have all : compiled options context outputDirectory source machine = _ :=
    compiled_eq read accepted
  constructor
  · intro printing pretty
    rw [all, page_of_pretty pretty]
    exact if_pos printing
  · intro filing target after done output
    rw [all, filing, if_neg Bool.false_ne_true] at done
    split at done
    · rename_i left wrote
      obtain ⟨named, rfl⟩ := Prod.mk.inj done
      obtain ⟨page, plain⟩ := read_of_writeOutput wrote
      refine ⟨(Except.ok.inj named).symm, fun pretty => ?_, plain⟩
      rw [← page_of_pretty pretty]
      exact page
    · cases (Prod.mk.inj done).1
  · intro filing room
    obtain ⟨after, wrote⟩ := room.writeOutput (Html.page blocks context options.page)
      (Html.plainPage blocks context)
    refine ⟨after, ?_⟩
    rw [all, filing]
    simp [wrote]
  · intro cause after failed
    rw [all] at failed
    dsimp only at failed
    split_ifs at failed
    · cases (Prod.mk.inj failed).1
    · split at failed
      · cases (Prod.mk.inj failed).1
      · exact ⟨_, (Except.error.inj (Prod.mk.inj failed).1).symm⟩

end Template

/-! ## Values for placeholders -/

section Context

variable {directory : Path} {config : Config} {year : Int} {machine after : Machine}
  {context : Context} {override : Option Context} {file : Option String}

/-- What lies over the values of a project: nothing, or what a file holds. -/
inductive GivenContext (tree : FileTree) (directory : Path) :
    Option String → Option Context → Prop
  | none : GivenContext tree directory none none
  | file {name text : String} {extra : Context}
      (read : tree.read (directory.join ⟨name⟩) = .ok text)
      (decoded : Decode.fromWholeText Context.decode text = .ok extra) :
      GivenContext tree directory (some name) (some extra)

theorem on_orFail {Cause Result : Type} (failure : Cause → CommandError)
    (step : StateM Machine (Except Cause Result)) :
    InPlace.on (Command.orFail failure step) machine =
      ((step machine).1.mapError failure, (step machine).2) := by
  change InPlace.on (ExceptT.lift step >>= _) machine = _
  rw [InPlace.on_bind]
  have lifted : InPlace.on (ExceptT.lift step : InPlace Machine CommandError _) machine =
    (.ok (step machine).1, (step machine).2) := rfl
  rw [lifted]
  dsimp only
  cases (step machine).1 <;> rfl

/-- The values of a compilation are those of the project, with those of the file on top. -/
theorem on_loadContext (given : GivenContext machine.tree directory file override) :
    InPlace.on (loadContext directory config year file) machine =
      (.ok ((projectContext config year).overlay (override.getD .empty)), machine) := by
  cases given with
  | none => rfl
  | @file name text extra read decoded =>
      have looked : (Files.read (directory.join ⟨name⟩) : StateM Machine _) machine =
        (.ok text, machine) := congrArg (·, machine) read
      unfold loadContext
      rw [InPlace.on_bind, on_orFail, looked]
      simp only [Except.mapError, decoded]
      rfl

end Context

end BlockMail.Project
