import Mathlib.Data.List.TakeWhile
import BlockMail.Project.Path
import BlockMail.Proofs.Text.Split

/-!
# Names of files

A path that ends in a name, taken apart into the text before the name and the name. Where
extensions are given to a path one after the other, only the extension of that name changes,
or the path no longer names a file.
-/

set_option autoImplicit false

namespace BlockMail

namespace Project.Path

variable {path : Path} {before name : List Char}

/-- The parts of a text between its slashes. -/
def way (text : List Char) : List String := (Text.splitAt '/' text).map String.ofList

/-- The parts of a text that is empty or ends with a slash, without what is behind it. -/
def wayTo (before : List Char) : List String :=
  if before = [] then [] else way before.dropLast

/-- The text is a name behind a text that is empty or ends with a slash. -/
structure Ends (path : Path) (before name : List Char) : Prop where
  text : path.text.toList = before ++ name
  divided : before = [] ∨ before.getLast? = some '/'
  single : '/' ∉ name

theorem way_append_slash (first second : List Char) :
    way (first ++ '/' :: second) = way first ++ way second := by
  simp only [way, Text.splitAt_append_divider, List.map_append]

theorem way_single (single : '/' ∉ name) : way name = [String.ofList name] := by
  simp only [way, Text.splitAt_of_absent single, List.map_cons, List.map_nil]

theorem way_append (divided : before = [] ∨ before.getLast? = some '/') (single : '/' ∉ name) :
    way (before ++ name) = wayTo before ++ [String.ofList name] := by
  rcases divided with rfl | last
  · exact way_single single
  · obtain ⟨above, rfl⟩ := List.getLast?_eq_some_iff.1 last
    have filled : above ++ ['/'] ≠ [] := by simp
    rw [wayTo, if_neg filled, List.dropLast_concat, List.append_assoc, List.singleton_append,
      way_append_slash, way_single single]

/-! ## Last names -/

theorem dropReversedEnd_name (moving : name ≠ [] ∧ name ≠ ['.']) (single : '/' ∉ name)
    (rest : List Char) : dropReversedEnd (name ++ rest) = name ++ rest := by
  match name with
  | [] => exact absurd rfl moving.1
  | [char] =>
      have divides : char ≠ '/' := fun same => single (by simp [same])
      have stays : char ≠ '.' := fun same => moving.2 (by simp [same])
      simp [dropReversedEnd, divides, stays]
  | char :: next :: others =>
      have divides : char ≠ '/' := fun same => single (by simp [same])
      have follows : next ≠ '/' := fun same => single (by simp [same])
      simp [dropReversedEnd, divides, follows]

theorem reversedName_append (divided : before = [] ∨ before.getLast? = some '/')
    (single : '/' ∉ name) : reversedName (name.reverse ++ before.reverse) = name.reverse := by
  have plain : ∀ char ∈ name.reverse, (char != '/') = true := fun char member =>
    bne_iff_ne.2 fun same => single (same ▸ List.mem_reverse.1 member)
  rw [reversedName, List.takeWhile_append_of_pos plain, List.append_right_eq_self]
  rcases divided with rfl | last
  · rfl
  · obtain ⟨above, rfl⟩ := List.getLast?_eq_some_iff.1 last
    simp

/-- The last name of a reversed text is behind a text that is empty or ends with a slash. -/
theorem reversedName_cut (reversed : List Char) :
    ∃ before, (before = [] ∨ before.getLast? = some '/') ∧
      '/' ∉ (reversedName reversed).reverse ∧
      reversed.reverse = before ++ (reversedName reversed).reverse := by
  refine ⟨(reversed.dropWhile (· != '/')).reverse, ?_, ?_, ?_⟩
  · rw [List.reverse_eq_nil_iff, List.getLast?_reverse]
    have stops := List.head?_dropWhile_not (· != '/') reversed
    cases rest : reversed.dropWhile (· != '/') with
    | nil => exact .inl rfl
    | cons char others =>
        rw [rest] at stops
        exact .inr (by simpa using stops)
  · rw [List.mem_reverse]
    exact fun member => by simpa using List.mem_takeWhile_imp member
  · rw [reversedName, ← List.reverse_append, List.takeWhile_append_dropWhile]

theorem Ends.dropReversedEnd (ends : path.Ends before name)
    (moving : name ≠ [] ∧ name ≠ ['.']) :
    (dropReversedEnd path.text.toList.reverse).reverse = before ++ name := by
  have movingBack : name.reverse ≠ [] ∧ name.reverse ≠ ['.'] := by
    simpa [List.reverse_eq_iff] using moving
  rw [ends.text, List.reverse_append, dropReversedEnd_name movingBack
    (by simpa using ends.single), List.reverse_append, List.reverse_reverse, List.reverse_reverse]

/-- A path that ends with a name that leads on names that file, unless the name stands for
the directory above. -/
theorem Ends.fileName? (ends : path.Ends before name) (moving : name ≠ [] ∧ name ≠ ['.']) :
    path.fileName? = if name = ['.', '.'] then none else some (String.ofList name) := by
  have kept := ends.dropReversedEnd moving
  rw [List.reverse_eq_iff, List.reverse_append] at kept
  simp only [Path.fileName?, kept, reversedName_append ends.divided ends.single,
    List.reverse_reverse, moving.1, moving.2, false_or]

/-! ## Extensions -/

variable {stem : List Char} {extension : String}

theorem splitExtension_append {old : List Char} (filled : stem ≠ []) (undotted : '.' ∉ old) :
    splitExtension (String.ofList (stem ++ '.' :: old)) =
      (String.ofList stem, some (String.ofList old)) := by
  simp [splitExtension, Text.splitAtLast?_append undotted, filled]

theorem splitExtension_fst {text : List Char} (filled : text ≠ []) :
    ∃ stem, stem ≠ [] ∧ (splitExtension (String.ofList text)).1 = String.ofList stem ∧
      stem <+: text := by
  unfold splitExtension
  rw [String.toList_ofList]
  cases split : Text.splitAtLast? '.' text with
  | none => exact ⟨text, filled, rfl, List.prefix_rfl⟩
  | some halves =>
      obtain ⟨before, after⟩ := halves
      cases before with
      | nil => exact ⟨text, filled, rfl, List.prefix_rfl⟩
      | cons first rest =>
          have joined := Text.eq_append_of_splitAtLast? split
          exact ⟨first :: rest, by simp, rfl, _, joined.symm⟩

/-- What carries no meaning at the end of a path with a file name hides that name only. -/
theorem dropReversedEnd_of_fileName? {found : String} (named : path.fileName? = some found) :
    ∃ before, (before = [] ∨ before.getLast? = some '/') ∧ found.toList ≠ [] ∧
      '/' ∉ found.toList ∧
      (dropReversedEnd path.text.toList.reverse).reverse = before ++ found.toList := by
  unfold Path.fileName? at named
  obtain ⟨before, divided, single, cut⟩ :=
    reversedName_cut (dropReversedEnd path.text.toList.reverse)
  simp only [Option.ite_none_left_eq_some, not_or, Option.some.injEq] at named
  obtain ⟨⟨filled, -, -⟩, rfl⟩ := named
  exact ⟨before, divided, by simpa using filled, by simpa using single, by simpa using cut⟩

theorem withExtension_of_nameless (nameless : path.withoutExtension.fileName? = none) :
    path.withExtension extension = path.withoutExtension := by
  unfold withExtension
  generalize path.withoutExtension = bare at nameless ⊢
  simp only [nameless]

theorem text_withExtension {found : String} (named : path.withoutExtension.fileName? = some found)
    (kept : (dropReversedEnd path.withoutExtension.text.toList.reverse).reverse =
      before ++ found.toList)
    (first : (splitExtension found).1 = String.ofList stem) :
    (path.withExtension extension).text.toList = before ++ (stem ++ '.' :: extension.toList) := by
  unfold withExtension
  generalize path.withoutExtension = bare at named kept ⊢
  rw [List.reverse_eq_iff, List.reverse_append] at kept
  simp only [named, kept, first]
  rw [List.drop_left' (by rw [List.length_reverse, String.length_toList])]
  simp

/-- A path that was given an extension names no file, or one with that extension. -/
theorem withExtension_cases (path : Path) (undivided : '/' ∉ extension.toList) :
    (path.withExtension extension).fileName? = none ∨
      ∃ before stem, stem ≠ [] ∧
        (path.withExtension extension).Ends before (stem ++ '.' :: extension.toList) := by
  cases named : path.withoutExtension.fileName? with
  | none => exact .inl (by rw [withExtension_of_nameless named, named])
  | some name =>
      obtain ⟨before, divided, filled, single, kept⟩ := dropReversedEnd_of_fileName? named
      obtain ⟨stem, left, first, whole⟩ := splitExtension_fst filled
      rw [String.ofList_toList] at first
      have inStem : '/' ∉ stem := fun member => single (whole.mem member)
      exact .inr ⟨before, stem, left, text_withExtension named kept first, divided,
        by simp [inStem, undivided]⟩

theorem Ends.withoutExtension {old : List Char} (ends : path.Ends before (stem ++ '.' :: old))
    (left : stem ≠ []) (filled : old ≠ []) (undotted : '.' ∉ old) :
    path.withoutExtension.Ends before (stem ++ ['.']) := by
  have long : 2 < (stem ++ '.' :: old).length := by
    have one := List.length_pos_iff.2 left
    have more := List.length_pos_iff.2 filled
    simp only [List.length_append, List.length_cons]
    omega
  have other : stem ++ '.' :: old ≠ ['.', '.'] := fun same => by simp [same] at long
  have moving : stem ++ '.' :: old ≠ [] ∧ stem ++ '.' :: old ≠ ['.'] :=
    ⟨by simp, fun same => by simp [same] at long⟩
  have carried : path.extension? = some (String.ofList old) := by
    simp only [Path.extension?, ends.fileName? moving, if_neg other,
      Option.bind_some, splitExtension_append left undotted]
  have whole : path.text.toList = (before ++ (stem ++ ['.'])) ++ old := by simp [ends.text]
  have single := ends.single
  simp only [List.mem_append, List.mem_cons, not_or] at single
  refine ⟨?_, ends.divided, by simp [single.1]⟩
  simp only [Path.withoutExtension, carried, String.toList_ofList, ← String.length_toList, whole,
    List.length_append, Nat.add_sub_cancel]
  exact List.take_left' (by simp)

/-- A file name keeps all but its extension when the path is given another, except that
what is left of it may name no file any more. -/
theorem Ends.withExtension {old : List Char} (ends : path.Ends before (stem ++ '.' :: old))
    (left : stem ≠ []) (filled : old ≠ []) (undotted : '.' ∉ old)
    (undivided : '/' ∉ extension.toList) :
    (path.withExtension extension).fileName? = none ∨
      (path.withExtension extension).Ends before (stem ++ '.' :: extension.toList) := by
  have undone := ends.withoutExtension left filled undotted
  have moving : stem ++ ['.'] ≠ [] ∧ stem ++ ['.'] ≠ ['.'] := by simp [left]
  have named := undone.fileName? moving
  split at named
  · exact .inl (by rw [withExtension_of_nameless named, named])
  · have first := splitExtension_append left (by simp : '.' ∉ [])
    have single := undone.single
    simp only [List.mem_append, not_or] at single
    refine .inr ⟨text_withExtension named ?_ ?_, ends.divided, ?_⟩
    · rw [undone.dropReversedEnd moving, String.toList_ofList]
    · rw [first]
    · simp [single.1, undivided]

end Project.Path

end BlockMail
