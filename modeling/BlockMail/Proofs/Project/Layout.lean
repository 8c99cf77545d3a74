import BlockMail.Proofs.Project.NamesBelow

/-!
# Files laid out in a tree

What writing some files leaves: a directory at every place on the way, the files with what was
written to them, and everything else as it was. Files that are written one after the other are
laid out together as long as none of them is in the way of another.
-/

set_option autoImplicit false

namespace BlockMail.Project

namespace FileTree

open BlockMail.Project.Path

variable {ways others : List (List String)} {files more : List (List String × String)}
  {tree middle after : FileTree} {place : List String}

/-- After some files were written, there are directories on the ways to them and they hold
what was written. All else stayed as it was. -/
structure Laid (ways : List (List String)) (files : List (List String × String))
    (before after : FileTree) : Prop where
  made : ∀ place ∈ ways, after.get? place = some .directory
  filed : ∀ file ∈ files, after.get? file.1 = some (.file file.2)
  kept : ∀ place, place ∉ ways → place ∉ files.map Prod.fst →
    after.get? place = before.get? place

/-- There is room for some files: no file stands on the ways to them, no directory where they
go, and they are not in each other's way. -/
structure Room (ways : List (List String)) (files : List (List String × String))
    (tree : FileTree) : Prop where
  passable : ∀ place ∈ ways, tree.Open place
  free : ∀ place ∈ files.map Prod.fst, tree.get? place ≠ some .directory
  apart : ∀ place ∈ ways, place ∉ files.map Prod.fst

theorem laid_of_directoriesAt (made : DirectoriesAt ways tree after) : Laid ways [] tree after :=
  ⟨made.there, by simp, fun place off _ => (made place).trans (if_neg off)⟩

theorem laid_nil (tree : FileTree) : Laid [] [] tree tree :=
  ⟨by simp, by simp, fun _ _ _ => rfl⟩

theorem laid_put (free : tree.get? place ≠ some .directory) (content : String) :
    Laid [] [(place, content)] tree (tree.put place (.file content)) := by
  have below := ne_root_of_free free
  refine ⟨by simp, ?_, ?_⟩
  · simp [get?_put tree below]
  · intro other _ elsewhere
    rw [get?_put tree below, if_neg (by simpa using elsewhere)]

theorem Laid.trans (first : Laid ways files tree middle) (second : Laid others more middle after)
    (distinct : ∀ place ∈ files.map Prod.fst, place ∉ more.map Prod.fst)
    (apart : ∀ place ∈ ways ++ others, place ∉ (files ++ more).map Prod.fst) :
    Laid (ways ++ others) (files ++ more) tree after := by
  simp only [List.map_append, List.mem_append, not_or] at apart
  constructor
  · intro place on
    rcases List.mem_append.1 on with early | late
    · by_cases again : place ∈ others
      · exact second.made place again
      · rw [second.kept place again (apart place (.inl early)).2, first.made place early]
    · exact second.made place late
  · intro file member
    rcases List.mem_append.1 member with early | late
    · have here := List.mem_map_of_mem (f := Prod.fst) early
      rw [second.kept file.1 (fun on => (apart _ (.inr on)).1 here) (distinct _ here),
        first.filed file early]
    · exact second.filed file late
  · intro place off elsewhere
    rw [List.mem_append, not_or] at off
    rw [List.map_append, List.mem_append, not_or] at elsewhere
    rw [second.kept place off.2 elsewhere.2, first.kept place off.1 elsewhere.1]

/-- What was there is still there, unless it was written. -/
theorem Laid.still (laid : Laid ways files tree after) (passable : ∀ place ∈ ways, tree.Open place)
    {entry : Entry} (there : tree.get? place = some entry)
    (elsewhere : place ∉ files.map Prod.fst) : after.get? place = some entry := by
  by_cases on : place ∈ ways
  · rcases passable place on with directory | nothing
    · rw [laid.made place on, ← there, directory]
    · cases there.symm.trans nothing
  · rw [laid.kept place on elsewhere, there]

theorem Laid.open (laid : Laid ways files tree after) (passable : tree.Open place)
    (elsewhere : place ∉ files.map Prod.fst) : after.Open place := by
  by_cases on : place ∈ ways
  · exact .inl (laid.made place on)
  · rwa [Open, laid.kept place on elsewhere]

theorem Laid.free (laid : Laid ways files tree after) (free : tree.get? place ≠ some .directory)
    (off : place ∉ ways) : after.get? place ≠ some .directory := by
  by_cases here : place ∈ files.map Prod.fst
  · obtain ⟨file, member, rfl⟩ := List.mem_map.1 here
    simp [laid.filed file member]
  · rwa [laid.kept place off here]

end FileTree

end BlockMail.Project
