import BlockMail.Proofs.Project.Compilation
import BlockMail.Proofs.Project.Ways

/-!
# Making directories

Making a directory and those above it leaves a directory at every place on the way to it, and
everything else as it was. It succeeds wherever no file stands on the way.
-/

set_option autoImplicit false

namespace BlockMail.Project

namespace Path

variable {path : Path} {before name : List Char}

/-- There is nothing without a meaning at the end of a path. -/
def Trimmed (path : Path) : Prop :=
  dropReversedEnd path.text.toList.reverse = path.text.toList.reverse

/-- The directory that a text behind which names stand leads to. -/
def ofFront (before : List Char) : Path := ⟨String.ofList (dropReversedEnd before.reverse).reverse⟩

theorem dropReversedEnd_idem (reversed : List Char) :
    dropReversedEnd (dropReversedEnd reversed) = dropReversedEnd reversed := by
  induction reversed using dropReversedEnd.induct with
  | case1 next rest ih => rw [dropReversedEnd, ih]
  | case2 rest ih => rw [dropReversedEnd, ih]
  | case3 reversed other others =>
      have stays : dropReversedEnd reversed = reversed := by
        rw [dropReversedEnd]
        · exact other
        · exact others
      rw [stays, stays]

theorem trimmed_ofFront (before : List Char) : (ofFront before).Trimmed := by
  simp [Trimmed, ofFront, dropReversedEnd_idem]

theorem steps_ofFront (divided : before = [] ∨ before.getLast? = some '/') :
    (ofFront before).steps = moves (wayTo before) := by
  rw [steps, ofFront, String.toList_ofList, moves_way_dropReversedEnd, List.reverse_reverse,
    moves_way_divided divided]

theorem Ends.steps (ends : path.Ends before name) :
    path.steps = moves (wayTo before) ++ moves [String.ofList name] := by
  rw [Path.steps, ends.text, way_append ends.divided ends.single, moves_append]

/-- A path is in the directory that the text before its last name leads to. -/
theorem Ends.parent? (ends : path.Ends before name) (filled : name ≠ [])
    (kept : (Path.dropReversedEnd path.text.toList.reverse).reverse = before ++ name) :
    path.parent? = some (ofFront before) := by
  rw [List.reverse_eq_iff, List.reverse_append] at kept
  simp only [Path.parent?, kept, reversedName_append ends.divided ends.single,
    List.isEmpty_reverse, List.isEmpty_iff, filled, if_false, List.length_reverse,
    List.drop_left' (List.length_reverse ..)]
  rfl

/-- A trimmed path is empty, the root, or ends with a name. -/
theorem Trimmed.cases (trimmed : path.Trimmed) :
    path.text = "" ∨ path.text = "/" ∨ ∃ before name, name ≠ [] ∧ path.Ends before name := by
  obtain ⟨before, divided, single, cut⟩ := reversedName_cut path.text.toList.reverse
  rw [List.reverse_reverse] at cut
  by_cases filled : reversedName path.text.toList.reverse = []
  · rw [filled, List.reverse_nil, List.append_nil] at cut
    rcases divided with rfl | last
    · exact .inl (String.toList_eq_nil_iff.1 cut)
    · obtain ⟨above, rfl⟩ := List.getLast?_eq_some_iff.1 last
      -- only the root keeps a slash at its end
      rw [Trimmed, cut, List.reverse_append, List.reverse_singleton, List.singleton_append]
        at trimmed
      cases reversed : above.reverse with
      | nil =>
          rw [List.reverse_eq_nil_iff.1 reversed] at cut
          exact .inr (.inl (String.toList_inj.1 cut))
      | cons next rest =>
          rw [reversed, dropReversedEnd] at trimmed
          have shorter := length_dropReversedEnd (next :: rest)
          rw [trimmed, List.length_cons] at shorter
          omega
  · exact .inr (.inr ⟨before, _, by simpa using filled, cut, divided, single⟩)

theorem withoutEndSlashes_of_ends (ends : path.Ends before name) (filled : name ≠ []) :
    path.withoutEndSlashes = path := by
  have last : path.text.toList.reverse.dropWhile (· == '/') = path.text.toList.reverse := by
    rw [ends.text, List.reverse_append]
    cases reversed : name.reverse with
    | nil => exact absurd (List.reverse_eq_nil_iff.1 reversed) filled
    | cons char rest =>
        have other : char ≠ '/' := by
          rintro rfl
          exact ends.single (List.mem_reverse.1 (reversed ▸ List.mem_cons_self))
        simp [other]
  have some : path.text.toList ≠ [] := by simp [ends.text, filled]
  unfold withoutEndSlashes
  simp only [last, List.reverse_reverse, List.isEmpty_iff, some, false_and, if_false,
    String.ofList_toList]

theorem dropReversedEnd_suffix (reversed : List Char) : dropReversedEnd reversed <:+ reversed := by
  induction reversed using dropReversedEnd.induct with
  | case1 next rest ih =>
      rw [dropReversedEnd]
      exact ih.trans (List.suffix_cons _ _)
  | case2 rest ih =>
      rw [dropReversedEnd]
      exact ih.trans (List.suffix_cons _ _)
  | case3 reversed other others =>
      rw [dropReversedEnd]
      · exact other
      · exact others

theorem dropReversedEnd_ne_nil {reversed : List Char} (filled : reversed ≠ []) :
    dropReversedEnd reversed ≠ [] := by
  induction reversed using dropReversedEnd.induct with
  | case1 next rest ih =>
      rw [dropReversedEnd]
      exact ih (by simp)
  | case2 rest ih =>
      rw [dropReversedEnd]
      exact ih (by simp)
  | case3 reversed other others =>
      rw [dropReversedEnd]
      · exact filled
      · exact other
      · exact others

theorem fault?_ofFront (ends : path.Ends before name) (sound : path.fault? = none)
    (filled : before ≠ []) : (ofFront before).fault? = none := by
  have front : (dropReversedEnd before.reverse).reverse <+: before := by
    have suffix := dropReversedEnd_suffix before.reverse
    rwa [← List.reverse_prefix, List.reverse_reverse] at suffix
  obtain ⟨rest, whole⟩ := front
  have text : path.text.toList = (dropReversedEnd before.reverse).reverse ++ (rest ++ name) := by
    rw [ends.text, ← List.append_assoc, whole]
  exact FileTree.fault?_of_front text
    (by simpa using dropReversedEnd_ne_nil (by simpa using filled)) sound

end Path

namespace FileTree

open BlockMail.Project.Path

variable {tree after : FileTree} {path : Path} {before name : List Char}

/-- There is a directory at each of some places, and everything else is as it was. -/
def DirectoriesAt (places : List (List String)) (before after : FileTree) : Prop :=
  ∀ place, after.get? place = if place ∈ places then some .directory else before.get? place

theorem directoriesAt_of_there {places : List (List String)}
    (there : ∀ place ∈ places, tree.get? place = some .directory) :
    DirectoriesAt places tree tree := by
  intro place
  split_ifs with within
  · exact there place within
  · rfl

theorem DirectoriesAt.there {places : List (List String)} (made : DirectoriesAt places tree after) :
    ∀ place ∈ places, after.get? place = some .directory :=
  fun place within => (made place).trans (if_pos within)

theorem DirectoriesAt.open_iff {places : List (List String)}
    (made : DirectoriesAt places tree after) (passable : ∀ place ∈ places, tree.Open place)
    (place : List String) : after.Open place ↔ tree.Open place := by
  unfold Open
  rw [made place]
  split_ifs with within
  · exact iff_of_true (.inl rfl) (passable place within)
  · rfl

theorem DirectoriesAt.trans {places others all : List (List String)} {middle : FileTree}
    (first : DirectoriesAt places tree middle) (second : DirectoriesAt others middle after)
    (both : ∀ place, place ∈ all ↔ place ∈ places ∨ place ∈ others) :
    DirectoriesAt all tree after := by
  intro place
  rw [second place, first place, if_congr (both place) rfl rfl, ite_or]
  split_ifs <;> rfl

/-- The places on the way to a path are those on the way to its last name, and its own. -/
theorem mem_stops_of_ends (ends : path.Ends before name) (stop : List String) :
    stop ∈ stops [] path.steps ↔
      stop ∈ stops [] (wayTo before) ∨
        stop ∈ [next (reach [] (wayTo before)) (String.ofList name)] := by
  rw [steps, ends.text, way_append ends.divided ends.single, mem_stops_moves, mem_stops_append,
    stops, stops, List.mem_cons]
  constructor
  · rintro (front | rfl | last)
    · exact .inl front
    · exact .inl (mem_stops_reach _ _)
    · exact .inr last
  · exact Or.imp_right .inr

theorem locate_of_ends_front (ends : path.Ends before name) (sound : path.fault? = none)
    (short : ∀ part ∈ path.steps, part.utf8ByteSize ≤ longestName)
    (there : ∀ stop ∈ stops [] (wayTo before), tree.get? stop = some .directory) :
    tree.locate path = .ok (next (reach [] (wayTo before)) (String.ofList name)) := by
  rw [ends.steps, ← moves_append] at short
  have shortAll := short_of_moves short
  rw [locate_eq_ok, ends.text, way_append ends.divided ends.single, follow_append_eq_ok]
  refine ⟨sound, _, follow_of_stops (fun part member => shortAll part (by simp [member])) there, ?_⟩
  exact follow_single_eq_ok.2 ⟨there _ (mem_stops_reach _ _), shortAll _ (by simp), rfl⟩

theorem kind?_of_stops (sound : path.fault? = none)
    (short : ∀ part ∈ path.steps, part.utf8ByteSize ≤ longestName)
    (there : ∀ stop ∈ stops [] path.steps, tree.get? stop = some .directory) :
    tree.kind? path = some .directory := by
  have along : ∀ stop ∈ stops [] (way path.text.toList), tree.get? stop = some .directory :=
    fun stop on => there stop (mem_stops_moves.2 on)
  have followed := follow_of_stops (short_of_moves short) along
  exact kind?_eq_directory.2
    ⟨_, locate_eq_ok.2 ⟨sound, followed⟩, along _ (mem_stops_reach _ _)⟩

end FileTree

namespace Machine

open BlockMail.Project.Path FileTree

variable {machine : Machine} {path : Path} {before name : List Char}

theorem makeNested_of_made {above : List Path} {tree : FileTree}
    (made : (Files.makeDirectory path : StateM Machine _) machine =
      (.ok (), machine.withTree tree)) :
    (Files.makeNested (path :: above) : StateM Machine _) machine =
      (.ok (), machine.withTree tree) := by
  rw [Files.makeNested]
  simp only [bind, StateT.bind, made]
  rfl

theorem makeNested_of_missing {above : List Path} {middle after : Machine}
    (missing : (Files.makeDirectory path : StateM Machine _) machine = (.error .notFound, machine))
    (nested : (Files.makeNested above : StateM Machine _) machine = (.ok (), middle))
    (made : (Files.makeDirectory path : StateM Machine _) middle = (.ok (), after)) :
    (Files.makeNested (path :: above) : StateM Machine _) machine = (.ok (), after) := by
  rw [Files.makeNested]
  simp only [bind, StateT.bind, missing, nested, made]
  rfl

theorem makeNested_of_missing_above {above : List Path} {middle : Machine}
    (missing : (Files.makeDirectory path : StateM Machine _) machine = (.error .notFound, machine))
    (nested : (Files.makeNested above : StateM Machine _) machine = (.ok (), middle))
    (there : middle.tree.kind? path = some .directory) :
    (Files.makeNested (path :: above) : StateM Machine _) machine = (.ok (), middle) := by
  obtain ⟨refused, excused⟩ := makeDirectory_of_directory there
  rw [Files.makeNested]
  simp only [bind, StateT.bind, missing, nested, refused, excused]

/-- Behind directories that are there, another is there or can be made. -/
theorem makeDirectory_behind (machine : Machine) (ends : path.Ends before name) (filled : name ≠ [])
    (sound : path.fault? = none)
    (short : ∀ part ∈ path.steps, part.utf8ByteSize ≤ longestName)
    (there : ∀ stop ∈ stops [] (wayTo before), machine.tree.get? stop = some .directory)
    (passable : machine.tree.Open (next (reach [] (wayTo before)) (String.ofList name))) :
    ∃ after, DirectoriesAt (stops [] path.steps) machine.tree after ∧
      ((Files.makeDirectory path : StateM Machine _) machine = (.ok (), machine.withTree after) ∨
        after = machine.tree ∧ machine.tree.kind? path = some .directory) := by
  have located := locate_of_ends_front ends sound short there
  have onWay := mem_stops_of_ends ends
  have front := directoriesAt_of_there there
  generalize next (reach [] (wayTo before)) (String.ofList name) = place at located passable onWay
  rcases passable with directory | nothing
  · have last : DirectoriesAt [place] machine.tree machine.tree :=
      directoriesAt_of_there (by simpa using directory)
    exact ⟨_, front.trans last onWay, .inr ⟨rfl, kind?_eq_directory.2 ⟨_, located, directory⟩⟩⟩
  · have made : machine.tree.makeDirectory path = .ok (machine.tree.put place .directory) := by
      unfold FileTree.makeDirectory
      rw [withoutEndSlashes_of_ends ends filled, located]
      simp only [bind, Except.bind, nothing]
      rfl
    have below : place ≠ [] := by
      rintro rfl
      cases nothing
    have last : DirectoriesAt [place] machine.tree (machine.tree.put place .directory) := by
      intro other
      simp only [get?_put machine.tree below, List.mem_singleton]
    exact ⟨_, front.trans last onWay, .inl (by rw [makeDirectory_eq, made])⟩

theorem ancestors_of_parent? {above : Path} (found : path.parent? = some above) :
    path.ancestors = path :: above.ancestors := by
  rw [Path.ancestors]
  split
  · rename_i other foundToo
    rw [Option.some.inj (found.symm.trans foundToo)]
  · rename_i none
    cases found.symm.trans none

theorem ancestors_of_root (found : path.parent? = none) : path.ancestors = [path] := by
  rw [Path.ancestors]
  split
  · rename_i other foundToo
    cases found.symm.trans foundToo
  · rfl

theorem makeDirectory_of_missing (ends : path.Ends before name) (filled : name ≠ [])
    (sound : path.fault? = none)
    (missing : ∀ part, machine.tree.follow [] (wayTo before ++ [part]) = .error .notFound) :
    (Files.makeDirectory path : StateM Machine _) machine = (.error .notFound, machine) := by
  have located : machine.tree.locate path = .error .notFound := by
    unfold locate
    rw [sound]
    have split := way_append ends.divided ends.single
    rw [← ends.text] at split
    exact (congrArg _ split).trans (missing _)
  rw [makeDirectory_eq, FileTree.makeDirectory, withoutEndSlashes_of_ends ends filled, located]
  rfl

/-- Once the directories above it are there, a directory that was not found is made. -/
theorem makeNested_above (ends : path.Ends before name) (filled : name ≠ [])
    (sound : path.fault? = none)
    (short : ∀ part ∈ path.steps, part.utf8ByteSize ≤ longestName)
    (passable : ∀ stop ∈ stops [] path.steps, machine.tree.Open stop)
    (missing : (Files.makeDirectory path : StateM Machine _) machine = (.error .notFound, machine))
    {above : List Path} {middle : FileTree}
    (nested : (Files.makeNested above : StateM Machine _) machine =
      (.ok (), machine.withTree middle))
    (front : DirectoriesAt (stops [] (wayTo before)) machine.tree middle) :
    ∃ after, (Files.makeNested (path :: above) : StateM Machine _) machine =
        (.ok (), machine.withTree after) ∧
      DirectoriesAt (stops [] path.steps) machine.tree after := by
  have onWay := mem_stops_of_ends ends
  have passableFront : ∀ stop ∈ stops [] (wayTo before), machine.tree.Open stop :=
    fun stop on => passable stop ((onWay stop).2 (.inl on))
  have still := (front.open_iff passableFront _).2
    (passable _ ((onWay _).2 (.inr (List.mem_singleton_self _))))
  obtain ⟨after, made, step⟩ := makeDirectory_behind (machine.withTree middle) ends
    filled sound short front.there still
  have all : DirectoriesAt (stops [] path.steps) machine.tree after :=
    front.trans made fun stop => ⟨.inr, fun on => on.elim (fun on => (onWay stop).2 (.inl on)) id⟩
  rcases step with done | ⟨same, directory⟩
  · exact ⟨after, makeNested_of_missing missing nested done, all⟩
  · obtain rfl : after = middle := same
    exact ⟨after, makeNested_of_missing_above missing nested directory, all⟩

theorem kept_of_trimmed (trimmed : path.Trimmed) (ends : path.Ends before name) :
    (dropReversedEnd path.text.toList.reverse).reverse = before ++ name := by
  rw [trimmed, List.reverse_reverse, ends.text]

/-- Where no file stands on the way, a directory is there afterwards at every place on it. -/
theorem makeNested_of_open (path : Path) (trimmed : path.Trimmed) (sound : path.fault? = none)
    (short : ∀ part ∈ path.steps, part.utf8ByteSize ≤ longestName)
    (passable : ∀ stop ∈ stops [] path.steps, machine.tree.Open stop) :
    ∃ after, (Files.makeNested path.ancestors : StateM Machine _) machine =
        (.ok (), machine.withTree after) ∧
      DirectoriesAt (stops [] path.steps) machine.tree after := by
  obtain ⟨-, notEmpty, -⟩ := fault?_eq_none.1 sound
  induction path using Path.ancestors.induct with
  | case1 path above found ih =>
      obtain empty | root | ⟨before, name, filled, ends⟩ := trimmed.cases
      · exact absurd empty notEmpty
      · obtain rfl : path = ⟨"/"⟩ := congrArg Path.mk root
        have none : Path.parent? ⟨"/"⟩ = none := by decide +kernel
        cases found.symm.trans none
      · obtain rfl := Option.some.inj
          (found.symm.trans (ends.parent? filled (kept_of_trimmed trimmed ends)))
        rw [ancestors_of_parent? found]
        have frontSteps := steps_ofFront ends.divided
        have shortFront : ∀ part ∈ moves (wayTo before), part.utf8ByteSize ≤ longestName :=
          fun part member => short part (by rw [ends.steps]; exact List.mem_append_left _ member)
        have passableFront : ∀ stop ∈ stops [] (wayTo before), machine.tree.Open stop :=
          fun stop on => passable stop ((mem_stops_of_ends ends _).2 (.inl on))
        rcases follow_of_open (short_of_moves shortFront) passableFront with there | missing
        · have last := (mem_stops_of_ends ends _).2 (.inr (List.mem_singleton_self _))
          obtain ⟨after, made, done | ⟨rfl, directory⟩⟩ :=
            makeDirectory_behind machine ends filled sound short there (passable _ last)
          · exact ⟨after, makeNested_of_made done, made⟩
          · exact ⟨_, makeNested_of_directory directory _, made⟩
        · have filledFront : before ≠ [] := by
            rintro rfl
            cases missing ""
          have soundFront := fault?_ofFront ends sound filledFront
          have sameStops (stop : List String) :
              stop ∈ stops [] (ofFront before).steps ↔ stop ∈ stops [] (wayTo before) := by
            rw [frontSteps, mem_stops_moves]
          obtain ⟨middle, nested, front⟩ := ih (trimmed_ofFront before) soundFront
            (by rwa [frontSteps]) (fun stop on => passableFront stop ((sameStops stop).1 on))
            (fault?_eq_none.1 soundFront).2.1
          refine makeNested_above ends filled sound short passable
            (makeDirectory_of_missing ends filled sound missing) nested fun place => ?_
          rw [front place, if_congr (sameStops place) rfl rfl]
  | case2 path found =>
      obtain empty | root | ⟨before, name, filled, ends⟩ := trimmed.cases
      · exact absurd empty notEmpty
      · obtain rfl : path = ⟨"/"⟩ := congrArg Path.mk root
        have steps : Path.steps ⟨"/"⟩ = [] := by decide +kernel
        have there : ∀ stop ∈ stops [] (Path.steps ⟨"/"⟩),
            machine.tree.get? stop = some .directory := by
          simp [steps, stops, get?]
        have directory := kind?_of_stops sound short there
        rw [ancestors_of_root found]
        exact ⟨machine.tree, makeNested_of_directory directory _, directoriesAt_of_there there⟩
      · cases found.symm.trans (ends.parent? filled (kept_of_trimmed trimmed ends))

/-- The directory of a path is made where no file stands on the way to it. -/
theorem on_makeParent {output : Path} (ends : output.Ends before name)
    (moving : name ≠ [] ∧ name ≠ ['.'])
    (sound : output.fault? = none)
    (short : ∀ part ∈ output.steps, part.utf8ByteSize ≤ longestName)
    (passable : ∀ stop ∈ stops [] (wayTo before), machine.tree.Open stop) :
    ∃ after, (makeParent output).on machine = (.ok (), machine.withTree after) ∧
      DirectoriesAt (stops [] (wayTo before)) machine.tree after := by
  unfold makeParent
  rw [ends.parent? moving.1 (ends.dropReversedEnd moving)]
  by_cases front : before = []
  · subst front
    refine ⟨machine.tree, rfl, directoriesAt_of_there ?_⟩
    simp [wayTo, stops, get?]
  · have soundFront := fault?_ofFront ends sound front
    have sameStops (stop : List String) :
        stop ∈ stops [] (ofFront before).steps ↔ stop ∈ stops [] (wayTo before) := by
      rw [steps_ofFront ends.divided, mem_stops_moves]
    have shortFront : ∀ part ∈ (ofFront before).steps, part.utf8ByteSize ≤ longestName := by
      rw [steps_ofFront ends.divided]
      exact fun part member => short part (by rw [ends.steps]; exact List.mem_append_left _ member)
    obtain ⟨after, nested, made⟩ := makeNested_of_open (ofFront before) (trimmed_ofFront before)
      soundFront shortFront fun stop on => passable stop ((sameStops stop).1 on)
    have some : ¬(ofFront before).text.isEmpty = true := by
      simpa using (fault?_eq_none.1 soundFront).2.1
    refine ⟨after, ?_, fun place => ?_⟩
    · change (Files.makeDirectories (ofFront before) : StateM Machine _) machine = _
      rw [Files.makeDirectories, if_neg some, nested]
    · rw [made place, if_congr (sameStops place) rfl rfl]

end Machine

end BlockMail.Project
