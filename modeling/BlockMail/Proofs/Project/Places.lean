import Mathlib.Data.List.Infix
import BlockMail.Proofs.Keyed.Lookup
import BlockMail.Proofs.Project.Names
import BlockMail.Project.FileTree

/-!
# Where paths lead

The place that a path leads to does not change when a file is written, so a file that was
written is read back under its path, and any other file under its own. A path whose last
part names nothing leads to a directory.
-/

set_option autoImplicit false

namespace BlockMail

namespace Project.FileTree

variable {tree after : FileTree} {place reached : List String}

/-! ## Following parts -/

/-- Where one part leads from a place. -/
def next (place : List String) (part : String) : List String :=
  if part = "" ∨ part = "." then place
  else if part = ".." then place.dropLast
  else place ++ [part]

theorem checkDirectory_eq_ok :
    tree.checkDirectory place = .ok () ↔ tree.get? place = some .directory := by
  unfold checkDirectory
  split <;> simp_all

theorem follow_cons_eq_ok {part : String} {rest : List String} :
    tree.follow place (part :: rest) = .ok reached ↔
      tree.get? place = some .directory ∧ part.utf8ByteSize ≤ longestName ∧
        tree.follow (next place part) rest = .ok reached := by
  rw [← checkDirectory_eq_ok, ← Nat.not_lt]
  unfold next
  simp only [follow]
  cases tree.checkDirectory place with
  | error fault => simp [bind, Except.bind]
  | ok =>
      simp only [bind, Except.bind, true_and]
      split_ifs <;> simp_all

theorem follow_append_eq_ok {first second : List String} :
    tree.follow place (first ++ second) = .ok reached ↔
      ∃ between, tree.follow place first = .ok between ∧
        tree.follow between second = .ok reached := by
  induction first generalizing place with
  | nil =>
      constructor
      · exact fun followed => ⟨place, rfl, followed⟩
      · rintro ⟨_, ⟨⟩, followed⟩
        exact followed
  | cons part rest ih =>
      rw [List.cons_append, follow_cons_eq_ok, ih]
      constructor
      · rintro ⟨directory, short, between, before, behind⟩
        exact ⟨between, follow_cons_eq_ok.2 ⟨directory, short, before⟩, behind⟩
      · rintro ⟨between, before, behind⟩
        obtain ⟨directory, short, before⟩ := follow_cons_eq_ok.1 before
        exact ⟨directory, short, between, before, behind⟩

theorem follow_single_eq_ok {part : String} :
    tree.follow place [part] = .ok reached ↔
      tree.get? place = some .directory ∧ part.utf8ByteSize ≤ longestName ∧
        next place part = reached := by
  rw [follow_cons_eq_ok]
  simp [follow]

/-! ## Files that are written -/

theorem ne_root_of_free (free : tree.get? place ≠ some .directory) : place ≠ [] := by
  rintro rfl
  exact free rfl

theorem get?_put (tree : FileTree) {place : List String} (below : place ≠ []) (entry : Entry)
    (other : List String) :
    (tree.put place entry).get? other =
      if other = place then some entry else tree.get? other := by
  unfold get? put
  rw [Keyed.lookup_put]
  by_cases root : other = []
  · simp [root, Ne.symm below]
  · simp [root]

theorem write_eq_ok {path : Path} {content : String} :
    tree.write path content = .ok after ↔
      ∃ place, tree.locate path = .ok place ∧ tree.get? place ≠ some .directory ∧
        tree.put place (.file content) = after := by
  unfold write
  cases located : tree.locate path with
  | error fault => simp [bind, Except.bind]
  | ok place =>
      simp only [bind, Except.bind]
      cases found : tree.get? place with
      | none => simp [pure, Except.pure, found]
      | some entry =>
          cases entry <;>
            simp [pure, Except.pure, found, throw, throwThe, MonadExceptOf.throw]

theorem read_eq_ok {path : Path} {content : String} :
    tree.read path = .ok content ↔
      ∃ place, tree.locate path = .ok place ∧ tree.get? place = some (.file content) := by
  unfold read
  cases located : tree.locate path with
  | error fault => simp [bind, Except.bind]
  | ok place =>
      simp only [bind, Except.bind]
      cases found : tree.get? place with
      | none => simp [found, throw, throwThe, MonadExceptOf.throw]
      | some entry =>
          cases entry <;>
            simp [pure, Except.pure, found, throw, throwThe, MonadExceptOf.throw]

/-- Where all directories are still there, a way leads to where it led. -/
theorem follow_of_kept {start : List String} {parts : List String}
    (kept : ∀ place, tree.get? place = some .directory → after.get? place = some .directory)
    (followed : tree.follow start parts = .ok reached) :
    after.follow start parts = .ok reached := by
  induction parts generalizing start with
  | nil => exact followed
  | cons part rest ih =>
      obtain ⟨directory, short, followed⟩ := follow_cons_eq_ok.1 followed
      exact follow_cons_eq_ok.2 ⟨kept start directory, short, ih followed⟩

/-- No way leads over a file, so one more file does not turn any way. -/
theorem follow_put {start : List String} {parts : List String} {content : String}
    (free : tree.get? place ≠ some .directory) (followed : tree.follow start parts = .ok reached) :
    (tree.put place (.file content)).follow start parts = .ok reached := by
  refine follow_of_kept (fun other directory => ?_) followed
  have elsewhere : other ≠ place := by
    rintro rfl
    exact free directory
  rw [get?_put tree (ne_root_of_free free), if_neg elsewhere, directory]

theorem locate_eq_ok {path : Path} :
    tree.locate path = .ok reached ↔
      path.fault? = none ∧ tree.follow [] (Path.way path.text.toList) = .ok reached := by
  unfold locate
  cases path.fault? with
  | none => simp [Path.parts, Path.way]
  | some fault => simp

theorem locate_put {path : Path} (content : String)
    (free : tree.get? place ≠ some .directory) (located : tree.locate path = .ok reached) :
    (tree.put place (.file content)).locate path = .ok reached := by
  obtain ⟨sound, followed⟩ := locate_eq_ok.1 located
  exact locate_eq_ok.2 ⟨sound, follow_put free followed⟩

theorem read_of_write {path : Path} {content : String}
    (written : tree.write path content = .ok after) : after.read path = .ok content := by
  obtain ⟨place, located, free, rfl⟩ := write_eq_ok.1 written
  have below := ne_root_of_free free
  refine read_eq_ok.2 ⟨place, locate_put content free located, ?_⟩
  rw [get?_put tree below, if_pos rfl]

/-- A file at another place stays as it is. -/
theorem read_of_other_write {path other : Path} {content text : String}
    (written : tree.write path content = .ok after)
    (apart : tree.locate other ≠ tree.locate path) (read : tree.read other = .ok text) :
    after.read other = .ok text := by
  obtain ⟨place, located, free, rfl⟩ := write_eq_ok.1 written
  obtain ⟨elsewhere, found, there⟩ := read_eq_ok.1 read
  have below := ne_root_of_free free
  have distinct : elsewhere ≠ place := by
    rintro rfl
    exact apart (found.trans located.symm)
  refine read_eq_ok.2 ⟨elsewhere, locate_put content free found, ?_⟩
  rw [get?_put tree below, if_neg distinct, there]

/-! ## Paths that name no file -/

/-- Everything above a place is a directory. -/
def Rooted (tree : FileTree) (place : List String) : Prop :=
  ∀ above, above <+: place → above ≠ place → tree.get? above = some .directory

theorem Rooted.above (rooted : tree.Rooted place)
    (directory : tree.get? place = some .directory) {above : List String}
    (within : above <+: place) : tree.get? above = some .directory := by
  by_cases same : above = place
  · rw [same, directory]
  · exact rooted above within same

theorem Rooted.next (rooted : tree.Rooted place)
    (directory : tree.get? place = some .directory) (part : String) :
    tree.Rooted (next place part) := by
  unfold FileTree.next
  split_ifs
  · exact rooted
  · intro above within _
    exact rooted.above directory (within.trans (List.dropLast_prefix place))
  · intro above within other
    exact rooted.above directory ((List.prefix_concat_iff.1 within).resolve_left other)

theorem Rooted.directory_next (rooted : tree.Rooted place)
    (directory : tree.get? place = some .directory) {part : String}
    (nameless : part = "" ∨ part = "." ∨ part = "..") :
    tree.get? (FileTree.next place part) = some .directory := by
  obtain rfl | rfl | rfl := nameless
  · exact directory
  · exact directory
  · exact rooted.above directory (List.dropLast_prefix place)

theorem Rooted.follow {parts : List String} (rooted : tree.Rooted place)
    (followed : tree.follow place parts = .ok reached) : tree.Rooted reached := by
  induction parts generalizing place with
  | nil =>
      obtain rfl := Except.ok.inj followed
      exact rooted
  | cons part rest ih =>
      obtain ⟨directory, -, followed⟩ := follow_cons_eq_ok.1 followed
      exact ih (rooted.next directory part) followed

theorem rooted_root : tree.Rooted [] :=
  fun _ within other => absurd (List.prefix_nil.1 within) other

section

open BlockMail.Project.Path

/-- A part that stands for where one is may be left out at the end of a way. -/
theorem follow_append_here {parts : List String} {part : String} (here : part = "" ∨ part = ".")
    (followed : tree.follow place (parts ++ [part]) = .ok reached) :
    tree.follow place parts = .ok reached ∧ tree.get? reached = some .directory := by
  obtain ⟨between, before, behind⟩ := follow_append_eq_ok.1 followed
  obtain ⟨directory, -, rfl⟩ := follow_single_eq_ok.1 behind
  rw [next, if_pos here]
  exact ⟨before, directory⟩

/-- What carries no meaning at the end of a path has no part in where it leads. -/
theorem follow_dropReversedEnd (reversed : List Char)
    (followed : tree.follow place (way reversed.reverse) = .ok reached) :
    tree.follow place (way (dropReversedEnd reversed).reverse) = .ok reached := by
  induction reversed using dropReversedEnd.induct with
  | case1 next rest ih =>
      rw [List.reverse_cons, way_append_slash] at followed
      exact ih (follow_append_here (.inl rfl) followed).1
  | case2 rest ih =>
      rw [List.reverse_cons, List.reverse_cons, List.append_assoc, List.singleton_append,
        way_append_slash] at followed
      obtain ⟨followed, directory⟩ := follow_append_here (.inr rfl) followed
      refine ih ?_
      rw [List.reverse_cons, way_append_slash]
      exact follow_append_eq_ok.2
        ⟨reached, followed, follow_single_eq_ok.2 ⟨directory, by decide, rfl⟩⟩
  | case3 reversed other others =>
      rwa [dropReversedEnd]
      · exact other
      · exact others

/-- A path whose last part names nothing leads to a directory. -/
theorem directory_of_nameless {path : Path} (nameless : path.fileName? = none)
    (located : tree.locate path = .ok place) : tree.get? place = some .directory := by
  obtain ⟨-, followed⟩ := locate_eq_ok.1 located
  rw [← List.reverse_reverse path.text.toList] at followed
  replace followed := follow_dropReversedEnd _ followed
  unfold fileName? at nameless
  generalize dropReversedEnd path.text.toList.reverse = reversed at nameless followed
  obtain ⟨before, divided, single, cut⟩ := reversedName_cut reversed
  rw [cut, way_append divided single] at followed
  obtain ⟨above, before, behind⟩ := follow_append_eq_ok.1 followed
  obtain ⟨directory, -, rfl⟩ := follow_single_eq_ok.1 behind
  simp only [ite_eq_left_iff, reduceCtorEq, imp_false, not_not] at nameless
  refine (rooted_root.follow before).directory_next directory ?_
  obtain nothing | here | back := nameless
  · exact .inl (by rw [nothing])
  · exact .inr (.inl (by rw [here]))
  · exact .inr (.inr (by rw [back]))

/-- A path that ends with a name leads to that name in a directory that does not hang on
the name, or to a directory. -/
theorem locate_of_ends {path : Path} {before name : List Char} (ends : path.Ends before name)
    (located : tree.locate path = .ok place) (free : tree.get? place ≠ some .directory) :
    ∃ above, tree.follow [] (wayTo before) = .ok above ∧
      place = above ++ [String.ofList name] := by
  obtain ⟨-, followed⟩ := locate_eq_ok.1 located
  rw [ends.text, way_append ends.divided ends.single] at followed
  obtain ⟨above, before, behind⟩ := follow_append_eq_ok.1 followed
  obtain ⟨directory, -, rfl⟩ := follow_single_eq_ok.1 behind
  refine ⟨above, before, ?_⟩
  unfold next
  have named := mt ((rooted_root.follow before).directory_next directory) free
  rw [← or_assoc, not_or] at named
  rw [if_neg named.1, if_neg named.2]

/-- A file under a path with an extension stays as it is when another is written under the
path with another extension. -/
theorem read_of_extension_write {path : Path} {between : FileTree} {old new text beside : String}
    (filled : old.toList ≠ []) (undotted : '.' ∉ old.toList)
    (undivided : '/' ∉ old.toList ∧ '/' ∉ new.toList) (differ : old ≠ new)
    (written : tree.write (path.withExtension old) text = .ok between)
    (besides : between.write ((path.withExtension old).withExtension new) beside = .ok after) :
    after.read (path.withExtension old) = .ok text := by
  refine read_of_other_write besides ?_ (read_of_write written)
  obtain ⟨place, located, free, rfl⟩ := write_eq_ok.1 written
  obtain ⟨second, found, vacant, -⟩ := write_eq_ok.1 besides
  have stays := locate_put text free located
  -- neither path can have lost its name, for nothing is written over a directory
  obtain ⟨before, stem, left, ends⟩ := (withExtension_cases path undivided.1).resolve_left
    fun nameless => free (directory_of_nameless nameless located)
  have others := (ends.withExtension left filled undotted undivided.2).resolve_left
    fun nameless => vacant (directory_of_nameless nameless found)
  obtain ⟨above, leads, rfl⟩ := locate_of_ends ends located free
  obtain ⟨again, leadsToo, rfl⟩ := locate_of_ends others found vacant
  obtain rfl : above = again := Except.ok.inj ((follow_put free leads).symm.trans leadsToo)
  rw [stays, found]
  exact fun same => differ (by simpa using same)

/-! ## Room for a file -/

/-- A file may be written under the path. -/
def Writable (tree : FileTree) (path : Path) : Prop :=
  ∃ place, tree.locate path = .ok place ∧ tree.get? place ≠ some .directory

theorem Writable.exists_write {path : Path} (writable : tree.Writable path) (content : String) :
    ∃ after, tree.write path content = .ok after := by
  obtain ⟨place, located, free⟩ := writable
  exact ⟨_, write_eq_ok.2 ⟨place, located, free, rfl⟩⟩

/-- A file that is written takes the room of no other. -/
theorem Writable.of_write {path other : Path} {content : String}
    (writable : tree.Writable other) (written : tree.write path content = .ok after) :
    after.Writable other := by
  obtain ⟨elsewhere, found, vacant⟩ := writable
  obtain ⟨place, located, free, rfl⟩ := write_eq_ok.1 written
  refine ⟨elsewhere, locate_put content free found, ?_⟩
  rw [get?_put tree (ne_root_of_free free)]
  split_ifs
  · simp
  · exact vacant

theorem kind?_eq_directory {path : Path} :
    tree.kind? path = some .directory ↔
      ∃ place, tree.locate path = .ok place ∧ tree.get? place = some .directory := by
  unfold kind?
  cases located : tree.locate path with
  | error fault => simp
  | ok place =>
      cases found : tree.get? place with
      | none => simp [found]
      | some entry => cases entry <;> simp [found]

theorem follow_dropSlashes (reversed : List Char)
    (followed : tree.follow place (way reversed.reverse) = .ok reached) :
    tree.follow place (way (reversed.dropWhile (· == '/')).reverse) = .ok reached := by
  induction reversed with
  | nil => exact followed
  | cons char rest ih =>
      by_cases divides : char = '/'
      · rw [divides, List.reverse_cons, way_append_slash] at followed
        simpa [divides] using ih (follow_append_here (.inl rfl) followed).1
      · simpa [divides] using followed

theorem fault?_eq_none {path : Path} :
    path.fault? = none ↔ '\x00' ∉ path.text.toList ∧ path.text ≠ "" ∧
      path.text.utf8ByteSize ≤ longestPath := by
  unfold Path.fault?
  split_ifs <;> simp_all

theorem fault?_of_front {path : Path} {kept rest : List Char}
    (whole : path.text.toList = kept ++ rest) (filled : kept ≠ []) (sound : path.fault? = none) :
    Path.fault? ⟨String.ofList kept⟩ = none := by
  have text : path.text = String.ofList kept ++ String.ofList rest := by
    rw [← String.ofList_append, ← whole, String.ofList_toList]
  obtain ⟨unended, -, short⟩ := fault?_eq_none.1 sound
  rw [whole, List.mem_append, not_or] at unended
  rw [text, String.utf8ByteSize_append] at short
  exact fault?_eq_none.2 ⟨by simpa using unended.1, by simpa using filled, by dsimp only; omega⟩

theorem isAbsolute_of_slashes {path : Path} (sound : path.fault? = none)
    (slashes : ∀ char ∈ path.text.toList, char = '/') : path.isAbsolute = true := by
  obtain ⟨-, named, -⟩ := fault?_eq_none.1 sound
  unfold Path.isAbsolute
  cases text : path.text.toList with
  | nil => exact absurd (String.toList_eq_nil_iff.1 text) named
  | cons char rest =>
      have first := slashes char (text ▸ List.mem_cons_self)
      simp [first]

/-- Slashes at the end of a path have no part in where it leads. -/
theorem locate_withoutEndSlashes {path : Path} (located : tree.locate path = .ok place) :
    tree.locate path.withoutEndSlashes = .ok place := by
  obtain ⟨sound, followed⟩ := locate_eq_ok.1 located
  rw [← List.reverse_reverse path.text.toList] at followed
  replace followed := follow_dropSlashes _ followed
  have whole : path.text.toList =
      (path.text.toList.reverse.dropWhile (· == '/')).reverse ++
        (path.text.toList.reverse.takeWhile (· == '/')).reverse := by
    rw [← List.reverse_append, List.takeWhile_append_dropWhile, List.reverse_reverse]
  unfold Path.withoutEndSlashes
  generalize (path.text.toList.reverse.dropWhile (· == '/')).reverse = kept at followed whole ⊢
  by_cases filled : kept = []
  · have root := isAbsolute_of_slashes sound fun char member => by
      rw [whole, filled, List.nil_append, List.mem_reverse] at member
      simpa using List.mem_takeWhile_imp member
    simp only [filled, root, List.isEmpty_nil, and_self, if_true]
    rw [filled] at followed
    exact followed
  · have other : ¬(kept.isEmpty = true ∧ path.isAbsolute = true) := by simp [filled]
    simp only [if_neg other]
    exact locate_eq_ok.2 ⟨fault?_of_front whole filled sound, by simpa using followed⟩

/-- A directory that is there is not made again. -/
theorem makeDirectory_of_directory {path : Path} (there : tree.kind? path = some .directory) :
    tree.makeDirectory path = .error .alreadyThere := by
  obtain ⟨place, located, directory⟩ := kind?_eq_directory.1 there
  unfold makeDirectory
  rw [locate_withoutEndSlashes located]
  simp [bind, Except.bind, directory]
  rfl

end

end Project.FileTree

end BlockMail
