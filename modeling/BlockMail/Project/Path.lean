import BlockMail.Text.Split

/-!
# Paths

Paths as text: parts between slashes, the last of which may have an extension.
A path is shown as it was put together; slashes at its end and parts `.` behind
the first carry no meaning, so they do not hide the last part.
-/

set_option autoImplicit false

namespace BlockMail.Project

structure Path where
  text : String
deriving DecidableEq

namespace Path

/-- Whether a path starts at the root. -/
def isAbsolute (path : Path) : Bool := path.text.toList.head? == some '/'

/-- A path below another. An absolute path stands for itself. -/
def join (base path : Path) : Path :=
  if path.isAbsolute then path
  else if base.text.isEmpty ∨ base.text.toList.getLast? = some '/' then
    ⟨base.text ++ path.text⟩
  else ⟨base.text ++ "/" ++ path.text⟩

/-- A reversed path without what carries no meaning at its end. -/
def dropReversedEnd : List Char → List Char
  | '/' :: next :: rest => dropReversedEnd (next :: rest)
  | '.' :: '/' :: rest => dropReversedEnd ('/' :: rest)
  | reversed => reversed

/-- The last part of a reversed path without a meaningless end, reversed. -/
def reversedName (reversed : List Char) : List Char :=
  reversed.takeWhile fun char => char != '/'

/-- The last part of a path, unless it stands for a directory above or for none
at all. -/
def fileName? (path : Path) : Option String :=
  let name := (reversedName (dropReversedEnd path.text.toList.reverse)).reverse
  if name = [] ∨ name = ['.'] ∨ name = ['.', '.'] then none
  else some (String.ofList name)

/-- The directory that a path is in; none for the root and the empty path. -/
def parent? (path : Path) : Option Path :=
  let reversed := dropReversedEnd path.text.toList.reverse
  let name := reversedName reversed
  if name.isEmpty then none
  else
    some ⟨String.ofList (dropReversedEnd (reversed.drop name.length)).reverse⟩

/-- The part of a name before its last dot and the extension behind it. A name
whose only dot is its first character has no extension. -/
def splitExtension (name : String) : String × Option String :=
  match Text.splitAtLast? '.' name.toList with
  | some (stem, extension) =>
      if stem.isEmpty then (name, none)
      else (String.ofList stem, some (String.ofList extension))
  | none => (name, none)

/-- The extension of the last part. -/
def extension? (path : Path) : Option String :=
  path.fileName?.bind fun name => (splitExtension name).2

/-- The path up to the dot before its extension, or the whole path. -/
def withoutExtension (path : Path) : Path :=
  match path.extension? with
  | some extension =>
      ⟨String.ofList
        (path.text.toList.take (path.text.length - extension.length))⟩
  | none => path

/-- The path with another extension, or with one added. What is left without the
old extension decides what the new one is put behind: a path that then names no
last part gets none. -/
def withExtension (path : Path) (extension : String) : Path :=
  let kept := path.withoutExtension
  match kept.fileName? with
  | some name =>
      let reversed := dropReversedEnd kept.text.toList.reverse
      let before := (reversed.drop name.length).reverse
      ⟨String.ofList before ++ (splitExtension name).1 ++ "." ++ extension⟩
  | none => kept

/-- Parts with slashes between them. -/
def ofParts (parts : List String) : Path := ⟨"/".intercalate parts⟩

/-- The path without slashes at its end; the root keeps one. -/
def withoutEndSlashes (path : Path) : Path :=
  let kept := (path.text.toList.reverse.dropWhile (· == '/')).reverse
  if kept.isEmpty ∧ path.isAbsolute then ⟨"/"⟩ else ⟨String.ofList kept⟩

/-- The parts of a path between its slashes. -/
def parts (path : Path) : List String :=
  (Text.splitAt '/' path.text.toList).map String.ofList

/-- The parts that lead to where a path points when `..` takes back the part
before it, whatever that part stands for. -/
def plainParts (path : Path) : List String :=
  path.parts.foldl
    (fun kept part =>
      if part = "" ∨ part = "." then kept
      else if part = ".." then kept.dropLast
      else kept ++ [part])
    []

theorem length_dropReversedEnd (reversed : List Char) :
    (dropReversedEnd reversed).length ≤ reversed.length := by
  fun_induction dropReversedEnd reversed with
  | case1 next rest ih => simp only [List.length_cons] at ih ⊢; omega
  | case2 rest ih => simp only [List.length_cons] at ih ⊢; omega
  | case3 => exact Nat.le_refl _

/-- The directory that a path is in has a shorter text. -/
theorem length_of_parent? {path above : Path} (found : path.parent? = some above) :
    above.text.length < path.text.length := by
  simp only [parent?] at found
  split at found
  · simp at found
  · rename_i named
    obtain rfl := Option.some.inj found
    have first := length_dropReversedEnd path.text.toList.reverse
    have second := length_dropReversedEnd
      ((dropReversedEnd path.text.toList.reverse).drop
        (reversedName (dropReversedEnd path.text.toList.reverse)).length)
    have positive :
        0 < (reversedName (dropReversedEnd path.text.toList.reverse)).length :=
      List.length_pos_iff.2 fun empty => named (by simp [empty])
    have within :
        (reversedName (dropReversedEnd path.text.toList.reverse)).length ≤
          (dropReversedEnd path.text.toList.reverse).length :=
      (List.takeWhile_sublist _).length_le
    simp only [List.length_drop, List.length_reverse, String.length_toList] at *
    simp only [String.length_ofList, List.length_reverse]
    omega

/-- A path and the directories above it, nearest first. -/
def ancestors (path : Path) : List Path :=
  match _found : path.parent? with
  | some above => path :: ancestors above
  | none => [path]
termination_by path.text.length
decreasing_by exact length_of_parent? _found

end Path

end BlockMail.Project
