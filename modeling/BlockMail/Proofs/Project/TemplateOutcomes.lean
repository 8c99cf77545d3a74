import BlockMail.Proofs.Project.OneByOne
import BlockMail.Proofs.Project.TemplateFiles

/-!
# What the templates of a directory come to

Every template of a directory that is accepted comes to files of its own, whatever the others
are. It fails only if its name without its extension is a dot, for then its output stands for a
directory. A directory that is taken for a template always fails.
-/

set_option autoImplicit false

namespace BlockMail.Project

open BlockMail.Project.Path FileTree

/-! ## Room for output -/

/-- The places on the ways to the output of the templates below a place. -/
def outputWays (tree : FileTree) (top : List String) (out : Path) : Set (List String) :=
  {place | ∃ above stem blocks, tree.AcceptsTemplate top above stem blocks ∧
    place ∈ stops [] (out.steps ++ above)}

/-- The places where the output of the templates below a place goes. -/
def outputPlaces (options : CompileOptions) (tree : FileTree) (top : List String) (out : Path) :
    Set (List String) :=
  {place | ∃ above stem blocks, tree.AcceptsTemplate top above stem blocks ∧
    ∃ extension ∈ options.extensions, place = placeBelow out above (named stem extension)}

/-- The templates below a place are read, and there is room for the output of those that are
accepted. -/
structure Compilable (options : CompileOptions) (tree : FileTree) (base : Path)
    (top : List String) (out : Path) : Prop where
  readable : ∀ {above stem content}, tree.HoldsTemplate top above stem content →
    tree.read (base.join (ofParts (above ++ [named stem templateExtension]))) = .ok content
  short : ∀ {above stem blocks}, tree.AcceptsTemplate top above stem blocks →
    ∀ part ∈ out.steps, part.utf8ByteSize ≤ longestName
  sound : ∀ {above stem blocks}, tree.AcceptsTemplate top above stem blocks →
    ∀ extension ∈ options.extensions,
      (out.join (ofParts (above ++ [named stem extension]))).fault? = none
  passable : ∀ place ∈ outputWays tree top out, tree.Open place
  free : ∀ place ∈ outputPlaces options tree top out, tree.get? place ≠ some .directory
  apart : ∀ place ∈ outputWays tree top out, place ∉ outputPlaces options tree top out

/-! ## What they leave -/

/-- An accepted template leaves its page, and its text, unless its output would stand for a
directory. -/
def Leaving.ofBlocks (options : CompileOptions) (context : Context) (out : Path)
    (above : List String) (stem : String) (blocks : List Block) : Leaving where
  failed := stem == "."
  ways := stops [] (out.steps ++ above)
  files :=
    if stem = "." then []
    else
      options.files out above stem (Html.page blocks context options.page)
        (Html.plainPage blocks context)

/-- What is taken for a template at some parts below a place comes to this. -/
def leavingOf (options : CompileOptions) (context : Context) (out : Path) (tree : FileTree)
    (top parts : List String) : Leaving :=
  match tree.get? (top ++ parts) with
  | some (.file content) =>
      match readBlocks content with
      | .ok blocks =>
          .ofBlocks options context out parts.dropLast
            (splitExtension (parts.getLastD "")).1 blocks
      | .error _ => .nothing
  | _ => .nothing

section Directory

variable {options : CompileOptions} {context : Context} {base out : Path} {tree : FileTree}
  {top above parts place : List String} {stem content : String} {blocks : List Block}
  {machine : Machine}

theorem leavingOf_directory (there : tree.get? (top ++ parts) = some .directory) :
    leavingOf options context out tree top parts = .nothing := by
  simp [leavingOf, there]

theorem leavingOf_refused {cause : TemplateError}
    (there : tree.get? (top ++ parts) = some (.file content))
    (refused : readBlocks content = .error cause) :
    leavingOf options context out tree top parts = .nothing := by
  simp [leavingOf, there, refused]

theorem leavingOf_accepted (options : CompileOptions) (context : Context) (out : Path)
    (formed : tree.WellFormed) (holds : tree.HoldsTemplate top above stem content)
    (accepted : readBlocks content = .ok blocks) :
    leavingOf options context out tree top (above ++ [named stem templateExtension]) =
      .ofBlocks options context out above stem blocks := by
  have undotted : '.' ∉ templateExtension.toList := by decide
  simp [leavingOf, formed.get? holds.2, accepted, splitExtension_named holds.1 undotted]

theorem leavingOf_cases (options : CompileOptions) (context : Context) (out : Path)
    (source : tree.SourceDirectory base top) (member : parts ∈ tree.templateParts base) :
    leavingOf options context out tree top parts = .nothing ∨
      ∃ above stem blocks, parts = above ++ [named stem templateExtension] ∧
        tree.AcceptsTemplate top above stem blocks ∧
        leavingOf options context out tree top parts =
          .ofBlocks options context out above stem blocks := by
  rcases source.templateParts_cases member with there | ⟨above, stem, content, rfl, holds⟩
  · exact .inl (leavingOf_directory (source.formed.get? there))
  · cases accepted : readBlocks content with
    | error cause => exact .inl (leavingOf_refused (source.formed.get? holds.2) accepted)
    | ok blocks =>
        exact .inr ⟨above, stem, blocks, rfl, ⟨content, holds, accepted⟩,
          leavingOf_accepted options context out source.formed holds accepted⟩

/-- The files that a template leaves are named like it. -/
theorem files_ofBlocks
    (there : place ∈ (Leaving.ofBlocks options context out above stem blocks).files.map Prod.fst) :
    ∃ extension ∈ options.extensions, place = placeBelow out above (named stem extension) := by
  dsimp only [Leaving.ofBlocks] at there
  split_ifs at there
  · cases there
  · rw [options.map_fst_files] at there
    obtain ⟨extension, known, rfl⟩ := List.mem_map.1 there
    exact ⟨extension, known, rfl⟩

theorem within_ofBlocks (accepts : tree.AcceptsTemplate top above stem blocks) :
    (Leaving.ofBlocks options context out above stem blocks).Within (outputWays tree top out)
      (outputPlaces options tree top out) :=
  ⟨fun _ on => ⟨above, stem, blocks, accepts, on⟩,
    fun _ there => ⟨above, stem, blocks, accepts, files_ofBlocks there⟩⟩

theorem leavingOf_within (source : tree.SourceDirectory base top)
    (member : parts ∈ tree.templateParts base) :
    (leavingOf options context out tree top parts).Within (outputWays tree top out)
      (outputPlaces options tree top out) := by
  obtain nothing | ⟨above, stem, blocks, -, accepts, leaves⟩ :=
    leavingOf_cases options context out source member
  · rw [nothing]
    exact ⟨List.forall_mem_nil _, List.forall_mem_nil _⟩
  · rw [leaves]
    exact within_ofBlocks accepts

/-- No two templates of a directory leave a file at one place. -/
theorem leavingOf_distinct (source : tree.SourceDirectory base top) :
    (tree.templateParts base).Pairwise fun first second =>
      ∀ place ∈ (leavingOf options context out tree top first).files.map Prod.fst,
        place ∉ (leavingOf options context out tree top second).files.map Prod.fst := by
  refine (source.formed.nodup_templateParts base).pairwise_of_forall_ne ?_
  intro first member second memberToo differ place here there
  have named {parts : List String} (member : parts ∈ tree.templateParts base)
      (there : place ∈ (leavingOf options context out tree top parts).files.map Prod.fst) :
      ∃ above stem, parts = above ++ [named stem templateExtension] ∧ TemplateName above stem ∧
        ∃ extension ∈ options.extensions, place = placeBelow out above (named stem extension) := by
    obtain nothing | ⟨above, stem, blocks, same, ⟨content, holds, -⟩, leaves⟩ :=
      leavingOf_cases options context out source member
    · rw [nothing] at there
      cases there
    · rw [leaves] at there
      exact ⟨above, stem, same, holds.name source.formed, files_ofBlocks there⟩
  obtain ⟨above, stem, rfl, isTemplate, extension, known, rfl⟩ := named member here
  obtain ⟨otherAbove, other, rfl, isTemplateToo, another, knownToo, same⟩ := named memberToo there
  obtain ⟨rfl, rfl⟩ := placeBelow_inj isTemplate isTemplateToo known knownToo same
  exact differ rfl

/-! ## What they come to -/

/-- No output goes where a template is. -/
theorem template_not_mem_outputPlaces (holds : tree.HoldsTemplate top above stem content) :
    top ++ (above ++ [named stem templateExtension]) ∉ outputPlaces options tree top out := by
  rintro ⟨otherAbove, other, blocks, ⟨_, holdsToo, _⟩, extension, member, same⟩
  obtain ⟨undotted, differ⟩ := undotted_of_mem_extensions member
  rw [placeBelow, ← List.append_assoc] at same
  exact differ (append_named_inj holds.1 holdsToo.1 (by decide) undotted same).2.2.symm

/-- An accepted template comes to its page, and its text, as long as nothing was written but
the ways and the files of templates. -/
theorem comes_of_accepted (formed : tree.WellFormed)
    (compilable : Compilable options tree base top out) (filing : options.toTerminal = false)
    (holds : tree.HoldsTemplate top above stem content)
    (accepted : readBlocks content = .ok blocks)
    (steady : Steady (outputWays tree top out) (outputPlaces options tree top out) tree
      machine.tree)
    (read : machine.tree.read
      (sourceAt base (above ++ [named stem templateExtension])).path = .ok content) :
    Comes options context out (sourceAt base (above ++ [named stem templateExtension])) machine
      (.ofBlocks options context out above stem blocks) := by
  have accepts : tree.AcceptsTemplate top above stem blocks := ⟨content, holds, accepted⟩
  have isTemplate := holds.name formed
  have short := compilable.short accepts
  have sound := compilable.sound accepts
  have within : (Leaving.ofBlocks options context out above stem blocks).Within _ _ :=
    within_ofBlocks accepts
  have passable : ∀ stop ∈ stops [] (out.steps ++ above), machine.tree.Open stop :=
    fun stop on => steady.passable stop (within.onWays stop on)
  by_cases other : stem = "."
  · subst other
    obtain ⟨output, goes, ends, nameless⟩ := outputPath_above isTemplate base out
    obtain ⟨fault, after, failed, laid⟩ := on_writeOutput_above isTemplate.isAbove ends nameless
      (fault?_above isTemplate ends (sound _ (html_mem_extensions options))) short passable
    exact comes_of_output filing goes read accepted failed laid
  · have left : Leaving.ofBlocks options context out above stem blocks =
        ⟨false, stops [] (out.steps ++ above), options.files out above stem
          (Html.page blocks context options.page) (Html.plainPage blocks context)⟩ := by
      simp [Leaving.ofBlocks, other]
    rw [left] at within ⊢
    have room : Room (stops [] (out.steps ++ above))
        (options.files out above stem (Html.page blocks context options.page)
          (Html.plainPage blocks context)) machine.tree :=
      { passable := passable
        free := fun place there => steady.free place (within.inOutputs place there)
        apart := fun place on there =>
          compilable.apart place (within.onWays place on) (within.inOutputs place there) }
    obtain ⟨after, wrote, laid⟩ := on_writeOutput_named isTemplate other short sound room
    exact comes_of_output filing (outputPath_named isTemplate other base out) read accepted
      wrote laid

/-- A directory that is taken for a template is never read. -/
theorem comes_of_directory (source : tree.SourceDirectory base top)
    (there : (top ++ parts, .directory) ∈ tree.entries)
    (still : machine.tree.get? (top ++ parts) = some .directory) :
    Comes options context out (sourceAt base parts) machine .nothing := by
  have isNames : ∀ part ∈ parts, IsName part := fun part member =>
    source.formed.isNames _ there part (List.mem_append_right top member)
  cases read : machine.tree.read (sourceAt base parts).path with
  | error fault => exact comes_of_unread read
  | ok content =>
      obtain ⟨place, found, file⟩ := read_eq_ok.1 read
      rw [place_of_sourceAt source.located isNames found, still] at file
      cases file

/-- A template is read as long as nothing was written but the ways and the files of templates. -/
theorem read_of_steady (source : tree.SourceDirectory base top)
    (compilable : Compilable options tree base top out)
    (holds : tree.HoldsTemplate top above stem content)
    (steady : Steady (outputWays tree top out) (outputPlaces options tree top out) tree
      machine.tree) :
    machine.tree.read (sourceAt base (above ++ [named stem templateExtension])).path =
      .ok content := by
  have readable := compilable.readable holds
  have path : (sourceAt base (above ++ [named stem templateExtension])).path =
      base.join (ofParts (above ++ [named stem templateExtension])) := by rw [sourceAt_below]
  have isNames : ∀ part ∈ above ++ [named stem templateExtension], IsName part := fun part member =>
    source.formed.isNames _ holds.2 part (List.mem_append_right top member)
  rw [← path] at readable
  refine steady.read compilable.free readable fun place found => ?_
  rw [place_of_sourceAt source.located isNames found]
  exact template_not_mem_outputPlaces holds

/-- Every template comes to what it leaves, whatever was compiled before it. -/
theorem comes_of_steady (source : tree.SourceDirectory base top)
    (compilable : Compilable options tree base top out) (filing : options.toTerminal = false)
    (member : parts ∈ tree.templateParts base)
    (steady : Steady (outputWays tree top out) (outputPlaces options tree top out) tree
      machine.tree) :
    Comes options context out (sourceAt base parts) machine
      (leavingOf options context out tree top parts) := by
  have formed := source.formed
  rcases source.templateParts_cases member with there | ⟨above, stem, content, rfl, holds⟩
  · have directory := formed.get? there
    rw [leavingOf_directory directory]
    exact comes_of_directory source there (steady.directory compilable.free directory)
  · have read := read_of_steady source compilable holds steady
    cases accepted : readBlocks content with
    | error cause =>
        rw [leavingOf_refused (formed.get? holds.2) accepted]
        exact comes_of_refused read accepted
    | ok blocks =>
        rw [leavingOf_accepted options context out formed holds accepted]
        exact comes_of_accepted formed compilable filing holds accepted steady read

/-! ## All of them -/

/-- The templates of a directory together leave what each of them leaves. -/
theorem compileSources_templateParts (context : Context) (machine : Machine)
    (source : tree.SourceDirectory base top) (compilable : Compilable options tree base top out)
    (filing : options.toTerminal = false) (same : machine.tree = tree) :
    let leaving := leavingOf options context out tree top
    let all := tree.templateParts base
    ∃ after, (compileSources options context out (all.map (sourceAt base)) : StateM Machine _)
        machine = (all.countP fun parts => (leaving parts).failed, after) ∧
      Laid (all.flatMap fun parts => (leaving parts).ways)
        (all.flatMap fun parts => (leaving parts).files) tree after.tree := by
  subst same
  exact compileSources_leaves compilable.apart (fun parts => leavingOf_within source)
    (leavingOf_distinct source)
    (fun parts member now steady => comes_of_steady source compilable filing member steady)
    ⟨fun there _ => there, compilable.passable, compilable.free⟩

/-- No template of a directory fails exactly if all its template files are accepted, under names
that are more than a dot without their extensions, and no directory is taken for a template. -/
theorem none_failed_iff (source : tree.SourceDirectory base top) :
    ((tree.templateParts base).countP fun parts =>
        (leavingOf options context out tree top parts).failed) = 0 ↔
      (∀ above stem content, tree.HoldsTemplate top above stem content →
        stem ≠ "." ∧ ∃ blocks, readBlocks content = .ok blocks) ∧
      ∀ parts, (top ++ parts, .directory) ∈ tree.entries →
        (sourceAt base parts).isTemplate = false := by
  obtain ⟨formed, located, -⟩ := id source
  rw [List.countP_eq_zero]
  constructor
  · refine fun succeeds => ⟨fun above stem content holds => ?_, fun parts there => ?_⟩
    · have succeeded := succeeds _ (holds.mem_templateParts source)
      cases accepted : readBlocks content with
      | error cause =>
          exact absurd (by rw [leavingOf_refused (formed.get? holds.2) accepted]; rfl) succeeded
      | ok blocks =>
          rw [leavingOf_accepted options context out formed holds accepted] at succeeded
          exact ⟨by simpa [Leaving.ofBlocks] using succeeded, blocks, rfl⟩
    · by_contra taken
      have member := (mem_templateParts located).2 ⟨⟨_, there⟩, by simpa using taken⟩
      exact succeeds parts member (by rw [leavingOf_directory (formed.get? there)]; rfl)
  · rintro ⟨accepts, untaken⟩ parts member
    rcases source.templateParts_cases member with there | ⟨above, stem, content, rfl, holds⟩
    · have taken := ((mem_templateParts located).1 member).2
      rw [untaken parts there] at taken
      cases taken
    · obtain ⟨other, blocks, accepted⟩ := accepts above stem content holds
      rw [leavingOf_accepted options context out formed holds accepted]
      simpa [Leaving.ofBlocks] using other

/-- What was laid out for a template is read under the paths of its output. -/
theorem read_of_laid {after : FileTree} {html text : String} (isTemplate : TemplateName above stem)
    (short : ∀ part ∈ out.steps, part.utf8ByteSize ≤ longestName)
    (sound : ∀ extension ∈ options.extensions,
      (out.join (ofParts (above ++ [named stem extension]))).fault? = none)
    (there : ∀ stop ∈ stops [] (out.steps ++ above), after.get? stop = some .directory)
    (filed : ∀ file ∈ options.files out above stem html text,
      after.get? file.1 = some (.file file.2)) :
    after.read (out.join (ofParts (above ++ [named stem "html"]))) = .ok html ∧
      (options.withText = true →
        after.read (out.join (ofParts (above ++ [named stem "txt"]))) = .ok text) := by
  constructor
  · have located := locate_below isTemplate.isAbove isTemplate.isPage short
      (sound _ (html_mem_extensions options)) there
    exact read_eq_ok.2 ⟨_, located, filed (_, html) List.mem_cons_self⟩
  · intro asked
    have located := locate_below isTemplate.isAbove isTemplate.isText short
      (sound _ (txt_mem_extensions asked)) there
    have member : (placeBelow out above (named stem "txt"), text) ∈
        options.files out above stem html text := by simp [CompileOptions.files, asked]
    exact read_eq_ok.2 ⟨_, located, filed _ member⟩

end Directory

end BlockMail.Project
