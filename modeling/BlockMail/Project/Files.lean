import BlockMail.Project.Path

/-!
# Files

What the commands need of a file system and a terminal, and why a use of a file
fails.
-/

set_option autoImplicit false

namespace BlockMail.Project

/-- Why a use of a file fails. -/
inductive FileFault where
  | notFound
  | notADirectory
  | isADirectory
  | alreadyThere
  | nameTooLong
  /-- The path holds the character that ends a path. -/
  | endedPath
  | notText
  /-- No interface of the machine has the address to listen on. -/
  | foreignAddress
  | other (reason : String)
deriving DecidableEq

def FileFault.message : FileFault → String
  | .notFound => "No such file or directory (os error 2)"
  | .notADirectory => "Not a directory (os error 20)"
  | .isADirectory => "Is a directory (os error 21)"
  | .alreadyThere => "File exists (os error 17)"
  | .nameTooLong => "File name too long (os error 36)"
  | .endedPath => "file name contained an unexpected NUL byte"
  | .notText => "stream did not contain valid UTF-8"
  | .foreignAddress => "Cannot assign requested address (os error 99)"
  | .other reason => reason

/-- The most bytes that a name in a directory has. -/
def longestName : Nat := 255

/-- The most bytes that a path has. -/
def longestPath : Nat := 4095

/-- Why a path leads nowhere on any file system, if it does not. -/
def Path.fault? (path : Path) : Option FileFault :=
  if path.text.toList.contains '\x00' then some .endedPath
  else if path.text.isEmpty then some .notFound
  else if longestPath < path.text.utf8ByteSize then some .nameTooLong
  else none

/-- What a path leads to. -/
inductive FileKind where
  | file
  | directory
deriving DecidableEq

/-- A file system with a terminal. -/
class Files (m : Type → Type) where
  kind? : Path → m (Option FileKind)
  read : Path → m (Except FileFault String)
  write : Path → String → m (Except FileFault Unit)
  /-- Makes one directory, in a directory that is there. -/
  makeDirectory : Path → m (Except FileFault Unit)
  /-- Everything at and below a path, by the parts that lead there. -/
  below : Path → m (List (List String))
  print : String → m Unit
  /-- Prints to the stream for errors. -/
  complain : String → m Unit

namespace Files

variable {m : Type → Type} [Monad m] [Files m]

/-- Whether a path leads anywhere. -/
def exists? (path : Path) : m Bool := do
  return (← kind? path).isSome

/-- A fault, unless the path leads to a directory after all. -/
def unlessDirectory (path : Path) (fault : FileFault) :
    m (Except FileFault Unit) := do
  if (← kind? path) = some .directory then return .ok ()
  else return .error fault

/-- Makes the first of some directories, each of which is in the next, and those
of the others that are needed. -/
def makeNested : List Path → m (Except FileFault Unit)
  | [] => return .error (.other "failed to create whole tree")
  | path :: above => do
      match ← makeDirectory path with
      | .ok () => return .ok ()
      | .error .notFound =>
          match ← makeNested above with
          | .error fault => return .error fault
          | .ok () =>
              match ← makeDirectory path with
              | .ok () => return .ok ()
              | .error fault => unlessDirectory path fault
      | .error fault => unlessDirectory path fault

/-- Makes a directory and those above it that are missing. -/
def makeDirectories (path : Path) : m (Except FileFault Unit) :=
  if path.text.isEmpty then return .ok () else makeNested path.ancestors

def printLine (line : String) : m Unit := print (line ++ "\n")

/-- Prints a line to the stream for errors. -/
def complainLine (line : String) : m Unit := complain (line ++ "\n")

end Files

end BlockMail.Project
