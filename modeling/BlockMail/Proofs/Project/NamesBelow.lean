import BlockMail.Proofs.Project.Directories

/-!
# Names below a directory

A path with names put behind it leads over its own steps and then those names. When the last
of them is given another extension, the path is put together from the new name instead, unless
what is left of the name stands for the directory above.
-/

set_option autoImplicit false

namespace BlockMail.Project

/-- A name of an entry of a directory. -/
structure IsName (name : String) : Prop where
  filled : name ≠ ""
  moving : name ≠ "." ∧ name ≠ ".."
  single : '/' ∉ name.toList
  unended : '\x00' ∉ name.toList
  short : name.utf8ByteSize ≤ longestName

instance (name : String) : Decidable (IsName name) :=
  decidable_of_iff
    (name ≠ "" ∧ (name ≠ "." ∧ name ≠ "..") ∧ '/' ∉ name.toList ∧ '\x00' ∉ name.toList ∧
      name.utf8ByteSize ≤ longestName)
    ⟨fun ⟨filled, moving, single, unended, short⟩ => ⟨filled, moving, single, unended, short⟩,
      fun ⟨filled, moving, single, unended, short⟩ => ⟨filled, moving, single, unended, short⟩⟩

/-- A name that is made of a stem and an extension. -/
def named (stem extension : String) : String := stem ++ "." ++ extension

theorem toList_named (stem extension : String) :
    (named stem extension).toList = stem.toList ++ '.' :: extension.toList := by
  simp [named]

namespace IsName

variable {name : String} {names : List String} {place : List String}

theorem next_eq (isName : IsName name) (place : List String) :
    FileTree.next place name = place ++ [name] := by
  unfold FileTree.next
  rw [if_neg (not_or.2 ⟨isName.filled, isName.moving.1⟩), if_neg isName.moving.2]

theorem reach_eq (isNames : ∀ name ∈ names, IsName name) (place : List String) :
    FileTree.reach place names = place ++ names := by
  induction names generalizing place with
  | nil => exact (List.append_nil place).symm
  | cons name rest ih =>
      obtain ⟨isName, isNames⟩ := List.forall_mem_cons.1 isNames
      rw [FileTree.reach, List.foldl_cons, isName.next_eq, ← FileTree.reach, ih isNames,
        List.append_assoc, List.singleton_append]

theorem moves_eq (isNames : ∀ name ∈ names, IsName name) : Path.moves names = names := by
  refine List.filter_eq_self.2 fun name member => ?_
  have isName := isNames name member
  simp [isName.filled, isName.moving.1]

theorem moves (isName : IsName name) : name.toList ≠ [] ∧ name.toList ≠ ['.'] :=
  ⟨mt String.toList_eq_nil_iff.1 isName.filled,
    fun same => isName.moving.1 (String.toList_inj.1 same)⟩

/-- Another extension that is not longer makes another name. -/
theorem replace {stem old new : String} (isName : IsName (named stem old))
    (long : 1 < new.length) (shorter : new.utf8ByteSize ≤ old.utf8ByteSize)
    (plain : '/' ∉ new.toList ∧ '\x00' ∉ new.toList) : IsName (named stem new) := by
  have longer : 2 < (named stem new).length := by
    have dot : ".".length = 1 := rfl
    simp only [named, String.length_append, dot]
    omega
  have single := isName.single
  have unended := isName.unended
  have short := isName.short
  simp only [toList_named, List.mem_append, List.mem_cons, not_or] at single unended
  simp only [named, String.utf8ByteSize_append] at short
  refine ⟨?_, ⟨?_, ?_⟩, ?_, ?_, ?_⟩
  · intro same
    exact absurd (same ▸ longer) (by decide)
  · intro same
    exact absurd (same ▸ longer) (by decide)
  · intro same
    exact absurd (same ▸ longer) (by decide)
  · simp [toList_named, single.1, plain.1]
  · simp [toList_named, unended.1, plain.2]
  · simp only [named, String.utf8ByteSize_append]
    omega

end IsName

namespace Path

variable {base : Path} {above : List String} {name : String}

/-- The text of a path with a slash at its end, unless there is none before its names. -/
def opened (base : Path) : List Char :=
  if base.text.isEmpty ∨ base.text.toList.getLast? = some '/' then base.text.toList
  else base.text.toList ++ ['/']

/-- Names with a slash behind each. -/
def slashed (names : List String) : List Char := names.flatMap fun name => name.toList ++ ['/']

theorem opened_divided (base : Path) : base.opened = [] ∨ base.opened.getLast? = some '/' := by
  unfold opened
  split_ifs with ended
  · refine ended.imp_left fun empty => ?_
    simpa using empty
  · exact .inr (by simp)

theorem slashed_divided (names : List String) :
    slashed names = [] ∨ (slashed names).getLast? = some '/' := by
  rcases List.eq_nil_or_concat names with rfl | ⟨front, last, rfl⟩
  · exact .inl rfl
  · exact .inr (by simp [slashed])

theorem front_divided (base : Path) (above : List String) :
    base.opened ++ slashed above = [] ∨
      (base.opened ++ slashed above).getLast? = some '/' := by
  rcases slashed_divided above with nothing | last
  · rw [nothing, List.append_nil]
    exact opened_divided base
  · exact .inr (by rw [List.getLast?_append, last]; rfl)

theorem toList_ofParts (above : List String) (name : String) :
    (ofParts (above ++ [name])).text.toList = slashed above ++ name.toList := by
  rw [ofParts, String.toList_intercalate, List.map_append]
  induction above with
  | nil => simp [slashed]
  | cons first rest ih =>
      cases rest with
      | nil => simp [slashed]
      | cons second rest =>
          simpa [slashed, List.intercalate_cons_cons] using ih

theorem toList_join (base : Path) (isAbove : ∀ part ∈ above, IsName part) (isName : IsName name) :
    (base.join (ofParts (above ++ [name]))).text.toList =
      (base.opened ++ slashed above) ++ name.toList := by
  have relative : (ofParts (above ++ [name])).isAbsolute = false := by
    rw [isAbsolute, toList_ofParts]
    have starts (part : String) (isPart : IsName part) (rest : List Char) :
        (part.toList ++ rest).head? ≠ some '/' := by
      intro slash
      have filled : part.toList ≠ [] := mt String.toList_eq_nil_iff.1 isPart.filled
      rw [List.head?_append_of_ne_nil _ filled] at slash
      exact isPart.single (List.mem_of_mem_head? slash)
    cases above with
    | nil => simpa [slashed] using starts name isName []
    | cons first rest =>
        have first := starts first (isAbove first List.mem_cons_self)
          ('/' :: (slashed rest ++ name.toList))
        simpa [slashed] using first
  rw [join, relative, if_neg Bool.false_ne_true]
  unfold opened
  split_ifs <;> simp [toList_ofParts]

theorem join_ends (base : Path) (isAbove : ∀ part ∈ above, IsName part) (isName : IsName name) :
    (base.join (ofParts (above ++ [name]))).Ends (base.opened ++ slashed above) name.toList :=
  ⟨toList_join base isAbove isName, front_divided base above, isName.single⟩

theorem way_append_of_divided {before : List Char}
    (divided : before = [] ∨ before.getLast? = some '/') (rest : List Char) :
    way (before ++ rest) = wayTo before ++ way rest := by
  rcases divided with rfl | last
  · rfl
  · obtain ⟨above, rfl⟩ := List.getLast?_eq_some_iff.1 last
    have filled : above ++ ['/'] ≠ [] := by simp
    rw [wayTo, if_neg filled, List.dropLast_concat, List.append_assoc, List.singleton_append,
      way_append_slash]

theorem moves_opened (base : Path) : moves (wayTo base.opened) = base.steps := by
  rw [← moves_way_divided (opened_divided base), steps]
  unfold opened
  split_ifs
  · rfl
  · rw [way_append_slash, moves_append]
    exact List.append_nil _

theorem moves_slashed (isAbove : ∀ part ∈ above, IsName part) :
    moves (way (slashed above)) = above := by
  induction above with
  | nil => rfl
  | cons first rest ih =>
      obtain ⟨isFirst, isRest⟩ := List.forall_mem_cons.1 isAbove
      have split : slashed (first :: rest) = first.toList ++ '/' :: slashed rest := by
        simp [slashed]
      rw [split, way_append_slash, moves_append, ih isRest, way_single isFirst.single,
        String.ofList_toList, IsName.moves_eq (by simpa using isFirst), List.singleton_append]

/-- The way to a name below a path leads over the steps of the path and the names above. -/
theorem moves_front (base : Path) (isAbove : ∀ part ∈ above, IsName part) :
    moves (wayTo (base.opened ++ slashed above)) = base.steps ++ above := by
  rw [← moves_way_divided (front_divided base above), way_append_of_divided (opened_divided base),
    moves_append, moves_opened, moves_slashed isAbove]

theorem steps_join (base : Path) (isAbove : ∀ part ∈ above, IsName part) (isName : IsName name) :
    (base.join (ofParts (above ++ [name]))).steps = base.steps ++ above ++ [name] := by
  rw [(join_ends base isAbove isName).steps, moves_front base isAbove, String.ofList_toList,
    IsName.moves_eq (by simpa using isName)]

/-! ## Other extensions -/

/-- Only the extension of a name changes when it is given another, if the name without its
extension does not stand for the directory above. -/
theorem Ends.withExtension_eq {path : Path} {before stem old : List Char}
    (ends : path.Ends before (stem ++ '.' :: old)) (extension : String)
    (left : stem ≠ []) (filled : old ≠ [])
    (undotted : '.' ∉ old) (other : stem ≠ ['.']) :
    (path.withExtension extension).text.toList = before ++ (stem ++ '.' :: extension.toList) := by
  have undone := ends.withoutExtension left filled undotted
  have moving : stem ++ ['.'] ≠ [] ∧ stem ++ ['.'] ≠ ['.'] := by simp [left]
  have named := undone.fileName? moving
  have kept : stem ++ ['.'] ≠ ['.', '.'] :=
    fun same => other (List.append_cancel_right (same : stem ++ ['.'] = ['.'] ++ ['.']))
  rw [if_neg kept] at named
  refine text_withExtension named ?_ ?_
  · rw [undone.dropReversedEnd moving, String.toList_ofList]
  · rw [splitExtension_append left (by simp : '.' ∉ [])]

/-- Nothing is put behind what stands for the directory above. -/
theorem Ends.withExtension_above {path : Path} {before old : List Char}
    (ends : path.Ends before ('.' :: '.' :: old)) (extension : String)
    (filled : old ≠ []) (undotted : '.' ∉ old) :
    (path.withExtension extension).Ends before ['.', '.'] ∧
      (path.withExtension extension).fileName? = none := by
  have behindDot : path.Ends before (['.'] ++ '.' :: old) := ends
  have undone := behindDot.withoutExtension (by simp) filled undotted
  have nameless : path.withoutExtension.fileName? = none := undone.fileName? (by decide)
  rw [withExtension_of_nameless nameless]
  exact ⟨undone, nameless⟩

theorem eq_of_toList {path other : Path} (same : path.text.toList = other.text.toList) :
    path = other := by
  cases path
  cases other
  exact congrArg Path.mk (String.toList_inj.1 same)

/-- A name below a path is given another extension. -/
theorem join_withExtension (base : Path) {stem old new : String}
    (isAbove : ∀ part ∈ above, IsName part) (isOld : IsName (named stem old))
    (isNew : IsName (named stem new)) (left : stem ≠ "") (other : stem ≠ ".")
    (filled : old.toList ≠ []) (undotted : '.' ∉ old.toList) :
    (base.join (ofParts (above ++ [named stem old]))).withExtension new =
      base.join (ofParts (above ++ [named stem new])) := by
  have ends := join_ends base isAbove isOld
  rw [toList_named] at ends
  have leftList : stem.toList ≠ [] := mt String.toList_eq_nil_iff.1 left
  have otherList : stem.toList ≠ ['.'] :=
    fun single => other (by rw [← String.ofList_toList (s := stem), single])
  have changed := ends.withExtension_eq new leftList filled undotted otherList
  have there := toList_join base isAbove isNew
  rw [toList_named] at there
  exact eq_of_toList (changed.trans there.symm)

end Path

end BlockMail.Project
