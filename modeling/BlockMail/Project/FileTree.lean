import BlockMail.Keyed.Pairs
import BlockMail.Project.Files

/-!
# File trees

A file system as a value: files and directories by the parts that lead to them
from the root, which is always there. Paths are followed part by part, through
directories only.
-/

set_option autoImplicit false

namespace BlockMail.Project

/-- What stands at a place of a tree. -/
inductive Entry where
  | file (content : String)
  | directory
deriving DecidableEq

/-- Entries by the parts that lead to them. -/
structure FileTree where
  entries : List (List String × Entry)
deriving DecidableEq

namespace FileTree

/-- A tree with nothing below its root. -/
def empty : FileTree := ⟨[]⟩

/-- What the parts lead to. -/
def get? (tree : FileTree) (place : List String) : Option Entry :=
  if place.isEmpty then some .directory else Keyed.lookup place tree.entries

def put (tree : FileTree) (place : List String) (entry : Entry) : FileTree :=
  ⟨Keyed.put place entry tree.entries⟩

/-- The tree with an entry at some parts below a place, and with directories on
the way from the place where there is nothing. -/
def plantBelow (tree : FileTree) (place : List String) (entry : Entry) :
    List String → FileTree
  | [] => tree.put place entry
  | part :: rest =>
      let reached :=
        if (tree.get? place).isNone then tree.put place .directory else tree
      reached.plantBelow (place ++ [part]) entry rest

/-- The tree with an entry, and with directories on the way to it where there is
nothing. -/
def plant (tree : FileTree) (place : List String) (entry : Entry) : FileTree :=
  tree.plantBelow [] entry place

def checkDirectory (tree : FileTree) (place : List String) :
    Except FileFault Unit :=
  match tree.get? place with
  | some .directory => .ok ()
  | some (.file _) => .error .notADirectory
  | none => .error .notFound

/-- Follows parts from a place. Where they lead need not be there, but the
directories on the way must, and no part may be longer than a name. -/
def follow (tree : FileTree) (place : List String) :
    List String → Except FileFault (List String)
  | [] => .ok place
  | part :: rest => do
      tree.checkDirectory place
      if longestName < part.utf8ByteSize then throw .nameTooLong
      else if part = "" ∨ part = "." then tree.follow place rest
      else if part = ".." then tree.follow place.dropLast rest
      else tree.follow (place ++ [part]) rest

/-- The place that a path leads to. -/
def locate (tree : FileTree) (path : Path) : Except FileFault (List String) :=
  match path.fault? with
  | some fault => .error fault
  | none => tree.follow [] path.parts

def kind? (tree : FileTree) (path : Path) : Option FileKind :=
  match tree.locate path with
  | .error _ => none
  | .ok place =>
      match tree.get? place with
      | some (.file _) => some .file
      | some .directory => some .directory
      | none => none

def read (tree : FileTree) (path : Path) : Except FileFault String := do
  match tree.get? (← tree.locate path) with
  | some (.file content) => return content
  | some .directory => throw .isADirectory
  | none => throw .notFound

def write (tree : FileTree) (path : Path) (content : String) :
    Except FileFault FileTree := do
  let place ← tree.locate path
  match tree.get? place with
  | some .directory => throw .isADirectory
  | _ => return tree.put place (.file content)

/-- The tree with another directory. Slashes at the end of its path do not
matter; a part `.` there is looked for in the directory itself. -/
def makeDirectory (tree : FileTree) (path : Path) :
    Except FileFault FileTree := do
  let place ← tree.locate path.withoutEndSlashes
  match tree.get? place with
  | some _ => throw .alreadyThere
  | none => return tree.put place .directory

/-- The parts of a place behind those of a place above it. -/
def partsBehind? : List String → List String → Option (List String)
  | [], place => some place
  | part :: parts, next :: place =>
      if part = next then partsBehind? parts place else none
  | _ :: _, [] => none

def below (tree : FileTree) (path : Path) : List (List String) :=
  match tree.locate path with
  | .error _ => []
  | .ok top => (tree.entries.map Prod.fst).filterMap (partsBehind? top)

end FileTree

/-- A file tree and what was printed. -/
structure Machine where
  tree : FileTree
  printed : String
  complained : String
deriving DecidableEq

namespace Machine

/-- A machine on which nothing was printed. -/
def ofTree (tree : FileTree) : Machine := ⟨tree, "", ""⟩

def change (apply : FileTree → Except FileFault FileTree) :
    StateM Machine (Except FileFault Unit) := do
  let machine ← get
  match apply machine.tree with
  | .ok tree =>
      set { machine with tree := tree }
      return .ok ()
  | .error fault => return .error fault

instance : Files (StateM Machine) where
  kind? path := return (← get).tree.kind? path
  read path := return (← get).tree.read path
  write path content := change fun tree => tree.write path content
  makeDirectory path := change fun tree => tree.makeDirectory path
  below path := return (← get).tree.below path
  print text := modify fun machine =>
    { machine with printed := machine.printed ++ text }
  complain text := modify fun machine =>
    { machine with complained := machine.complained ++ text }

end Machine

end BlockMail.Project
