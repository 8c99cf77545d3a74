import BlockMail.Proofs.Project.Layout

/-!
# The output of a template

Where there is room for it, the page of a template of a directory, and its text where that is
asked for, are laid out below the output directory under the names of the template with other
extensions. A template that is not read, or not accepted, leaves nothing.
-/

set_option autoImplicit false

namespace BlockMail.Project

open BlockMail.Project.Path FileTree

/-- Where a path leads that is put together from an output directory and names. -/
def placeBelow (out : Path) (above : List String) (name : String) : List String :=
  reach [] (out.steps ++ above) ++ [name]

/-- The extensions that the output of a template has. -/
def CompileOptions.extensions (options : CompileOptions) : List String :=
  if options.withText then ["html", "txt"] else ["html"]

/-- The files of a template, at their places. -/
def CompileOptions.files (options : CompileOptions) (out : Path) (above : List String)
    (stem html text : String) : List (List String × String) :=
  (placeBelow out above (named stem "html"), html) ::
    if options.withText then [(placeBelow out above (named stem "txt"), text)] else []

theorem CompileOptions.map_fst_files (options : CompileOptions) (out : Path)
    (above : List String) (stem html text : String) :
    (options.files out above stem html text).map Prod.fst =
      options.extensions.map fun extension => placeBelow out above (named stem extension) := by
  unfold files extensions
  split_ifs <;> rfl

section Below

variable {tree : FileTree} {out : Path} {above : List String} {name : String}

theorem mem_stops_front (isAbove : ∀ part ∈ above, IsName part) {stop : List String} :
    stop ∈ stops [] (wayTo (out.opened ++ slashed above)) ↔
      stop ∈ stops [] (out.steps ++ above) := by
  rw [← mem_stops_moves, moves_front out isAbove]

theorem reach_front (isAbove : ∀ part ∈ above, IsName part) :
    reach [] (wayTo (out.opened ++ slashed above)) = reach [] (out.steps ++ above) := by
  rw [← reach_moves, moves_front out isAbove]

theorem short_below (isAbove : ∀ part ∈ above, IsName part) (isName : IsName name)
    (short : ∀ part ∈ out.steps, part.utf8ByteSize ≤ longestName) :
    ∀ part ∈ (out.join (ofParts (above ++ [name]))).steps, part.utf8ByteSize ≤ longestName := by
  intro part member
  rw [steps_join out isAbove isName, List.mem_append, List.mem_append, List.mem_singleton] at member
  rcases member with (early | late) | rfl
  · exact short part early
  · exact (isAbove part late).short
  · exact isName.short

theorem locate_below (isAbove : ∀ part ∈ above, IsName part) (isName : IsName name)
    (short : ∀ part ∈ out.steps, part.utf8ByteSize ≤ longestName)
    (sound : (out.join (ofParts (above ++ [name]))).fault? = none)
    (there : ∀ stop ∈ stops [] (out.steps ++ above), tree.get? stop = some .directory) :
    tree.locate (out.join (ofParts (above ++ [name]))) = .ok (placeBelow out above name) := by
  have located := locate_of_ends_front (join_ends out isAbove isName) sound
    (short_below isAbove isName short) fun stop on => there stop ((mem_stops_front isAbove).1 on)
  rwa [reach_front isAbove, String.ofList_toList, isName.next_eq] at located

end Below

/-! ## Writing -/

section Writing

variable {machine : Machine} {options : CompileOptions} {out : Path} {above : List String}
  {stem html text : String}

/-- The names of a template below a directory: those above it, and its own without its
extension. -/
structure TemplateName (above : List String) (stem : String) : Prop where
  isAbove : ∀ part ∈ above, IsName part
  isName : IsName (named stem templateExtension)
  filled : stem ≠ ""

theorem TemplateName.isPage (isTemplate : TemplateName above stem) : IsName (named stem "html") :=
  isTemplate.isName.replace (by decide) (by decide) (by decide)

theorem TemplateName.isText (isTemplate : TemplateName above stem) : IsName (named stem "txt") :=
  isTemplate.isName.replace (by decide) (by decide) (by decide)

theorem on_makeParent_below (machine : Machine) {output : Path} {name : List Char}
    (ends : output.Ends (out.opened ++ slashed above) name) (moving : name ≠ [] ∧ name ≠ ['.'])
    (isAbove : ∀ part ∈ above, IsName part) (sound : output.fault? = none)
    (short : ∀ part ∈ output.steps, part.utf8ByteSize ≤ longestName)
    (passable : ∀ stop ∈ stops [] (out.steps ++ above), machine.tree.Open stop) :
    ∃ after, (makeParent output).on machine = (.ok (), machine.withTree after) ∧
      Laid (stops [] (out.steps ++ above)) [] machine.tree after := by
  obtain ⟨after, made, there⟩ := Machine.on_makeParent ends moving sound short
    fun stop on => passable stop ((mem_stops_front isAbove).1 on)
  refine ⟨after, made, laid_of_directoriesAt fun place => ?_⟩
  rw [there place, if_congr (mem_stops_front isAbove) rfl rfl]

theorem on_write_below (machine : Machine) (content : String) {name : String}
    (isAbove : ∀ part ∈ above, IsName part) (isName : IsName name)
    (short : ∀ part ∈ out.steps, part.utf8ByteSize ≤ longestName)
    (sound : (out.join (ofParts (above ++ [name]))).fault? = none)
    (there : ∀ stop ∈ stops [] (out.steps ++ above), machine.tree.get? stop = some .directory)
    (free : machine.tree.get? (placeBelow out above name) ≠ some .directory) :
    ∃ after, InPlace.on (ExceptT.mk (Files.write (out.join (ofParts (above ++ [name]))) content))
        machine = (.ok (), machine.withTree after) ∧
      Laid [] [(placeBelow out above name, content)] machine.tree after := by
  have located := locate_below isAbove isName short sound there
  exact ⟨_, Machine.on_write_eq_ok.2 ⟨_, write_eq_ok.2 ⟨_, located, free, rfl⟩, rfl⟩,
    laid_put free content⟩

theorem textPath_page (isTemplate : TemplateName above stem) (other : stem ≠ ".") (out : Path) :
    textPath (out.join (ofParts (above ++ [named stem "html"]))) =
      out.join (ofParts (above ++ [named stem "txt"])) :=
  join_withExtension out isTemplate.isAbove isTemplate.isPage isTemplate.isText
    isTemplate.filled other (by decide) (by decide)

theorem extension_of_placeBelow {first second : String}
    (same : placeBelow out above (named stem first) = placeBelow out above (named stem second)) :
    first = second := by
  have names := List.singleton_inj.1 (List.append_cancel_left same)
  rw [← String.toList_inj, toList_named, toList_named] at names
  exact String.toList_inj.1 (List.cons_inj_right _ |>.1 (List.append_cancel_left names))

theorem html_mem_extensions (options : CompileOptions) : "html" ∈ options.extensions := by
  unfold CompileOptions.extensions
  split_ifs <;> decide

theorem txt_mem_extensions (asked : options.withText = true) : "txt" ∈ options.extensions := by
  simp [CompileOptions.extensions, asked]

theorem on_writeFiles_named (machine : Machine) (html text : String)
    (isTemplate : TemplateName above stem) (other : stem ≠ ".")
    (short : ∀ part ∈ out.steps, part.utf8ByteSize ≤ longestName)
    (sound : ∀ extension ∈ options.extensions,
      (out.join (ofParts (above ++ [named stem extension]))).fault? = none)
    (there : ∀ stop ∈ stops [] (out.steps ++ above), machine.tree.get? stop = some .directory)
    (free : ∀ extension ∈ options.extensions,
      machine.tree.get? (placeBelow out above (named stem extension)) ≠ some .directory) :
    ∃ after, InPlace.on (writeFiles options (out.join (ofParts (above ++ [named stem "html"])))
        html text) machine = (.ok (), machine.withTree after) ∧
      Laid [] (options.files out above stem html text) machine.tree after := by
  have page := html_mem_extensions options
  obtain ⟨paged, wrotePage, laidPage⟩ := on_write_below machine html isTemplate.isAbove
    isTemplate.isPage short (sound _ page) there (free _ page)
  unfold writeFiles CompileOptions.files
  rw [InPlace.on_bind, wrotePage]
  dsimp only
  by_cases asked : options.withText = true
  · have beside := txt_mem_extensions asked
    have apart :
        placeBelow out above (named stem "html") ≠ placeBelow out above (named stem "txt") :=
      fun same => absurd (extension_of_placeBelow same) (by decide)
    have still : ∀ stop ∈ stops [] (out.steps ++ above), paged.get? stop = some .directory := by
      intro stop on
      refine laidPage.still (by simp) (there stop on) fun here => ?_
      obtain rfl := List.mem_singleton.1 here
      exact free _ page (there _ on)
    obtain ⟨after, wroteText, laidText⟩ := on_write_below (machine.withTree paged) text
      isTemplate.isAbove isTemplate.isText short (sound _ beside) still
      (laidPage.free (free _ beside) (by simp))
    rw [if_pos asked, if_pos asked, textPath_page isTemplate other, wroteText]
    exact ⟨after, rfl, laidPage.trans laidText (by simpa using apart) (by simp)⟩
  · rw [if_neg asked, if_neg asked]
    exact ⟨paged, rfl, laidPage⟩

/-- The page and the text of a template are laid out where there is room for them. -/
theorem on_writeOutput_named (isTemplate : TemplateName above stem) (other : stem ≠ ".")
    (short : ∀ part ∈ out.steps, part.utf8ByteSize ≤ longestName)
    (sound : ∀ extension ∈ options.extensions,
      (out.join (ofParts (above ++ [named stem extension]))).fault? = none)
    (room : Room (stops [] (out.steps ++ above)) (options.files out above stem html text)
      machine.tree) :
    ∃ after, InPlace.on (writeOutput options (out.join (ofParts (above ++ [named stem "html"])))
        html text) machine = (.ok (), machine.withTree after) ∧
      Laid (stops [] (out.steps ++ above)) (options.files out above stem html text)
        machine.tree after := by
  obtain ⟨passable, free, apart⟩ := room
  have page := html_mem_extensions options
  obtain ⟨opened, made, laidWays⟩ := on_makeParent_below machine
    (join_ends out isTemplate.isAbove isTemplate.isPage)
    isTemplate.isPage.moves isTemplate.isAbove (sound _ page)
    (short_below isTemplate.isAbove isTemplate.isPage short) passable
  obtain ⟨after, wrote, laidFiles⟩ := on_writeFiles_named (machine.withTree opened)
    html text isTemplate other short sound laidWays.made
    (by
      intro extension member
      have place : placeBelow out above (named stem extension) ∈
          (options.files out above stem html text).map Prod.fst := by
        rw [options.map_fst_files]
        exact List.mem_map_of_mem member
      exact laidWays.free (free _ place) fun on => apart _ on place)
  refine ⟨after, ?_, ?_⟩
  · rw [writeOutput_eq, InPlace.on_bind, made]
    exact wrote
  · have both := laidWays.trans laidFiles (by simp) (by simpa using apart)
    rwa [List.append_nil, List.nil_append] at both

theorem on_write_of_nameless {output : Path} (nameless : output.fileName? = none)
    (content : String) (machine : Machine) :
    ∃ fault, InPlace.on (ExceptT.mk (Files.write output content)) machine =
      (.error fault, machine) := by
  have written : InPlace.on (ExceptT.mk (Files.write output content)) machine = _ :=
    Machine.change_eq (fun tree => tree.write output content) machine
  cases ended : machine.tree.write output content with
  | ok after =>
      obtain ⟨place, located, free, -⟩ := write_eq_ok.1 ended
      exact absurd (directory_of_nameless nameless located) free
  | error fault => exact ⟨fault, by rw [written, ended]⟩

/-- A template whose name without its extension is a dot is given no page: its output would
stand for a directory. -/
theorem on_writeOutput_above {output : Path} (isAbove : ∀ part ∈ above, IsName part)
    (ends : output.Ends (out.opened ++ slashed above) ['.', '.'])
    (nameless : output.fileName? = none) (sound : output.fault? = none)
    (short : ∀ part ∈ out.steps, part.utf8ByteSize ≤ longestName)
    (passable : ∀ stop ∈ stops [] (out.steps ++ above), machine.tree.Open stop) :
    ∃ fault after, InPlace.on (writeOutput options output html text) machine =
        (.error fault, machine.withTree after) ∧
      Laid (stops [] (out.steps ++ above)) [] machine.tree after := by
  have shortAll : ∀ part ∈ output.steps, part.utf8ByteSize ≤ longestName := by
    intro part member
    rw [ends.steps, moves_front out isAbove, List.mem_append, List.mem_append] at member
    rcases member with (early | late) | last
    · exact short part early
    · exact (isAbove part late).short
    · rw [List.mem_singleton.1 (mem_moves.1 last).1]
      decide
  obtain ⟨opened, made, laid⟩ :=
    on_makeParent_below machine ends (by decide) isAbove sound shortAll passable
  obtain ⟨fault, failed⟩ := on_write_of_nameless nameless html (machine.withTree opened)
  refine ⟨fault, opened, ?_, laid⟩
  rw [writeOutput_eq, InPlace.on_bind, made]
  dsimp only
  rw [writeFiles, InPlace.on_bind, failed]

end Writing

end BlockMail.Project
