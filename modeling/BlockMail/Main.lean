import BlockMail.Project.CommandLine
import BlockMail.Project.Server
import Std.Time.DateTime

/-!
# The program

Runs the command line, or the standalone server under its own name, on the files
of this machine.
-/

set_option autoImplicit false

namespace BlockMail.Program

open Project

/-- The name under which the program is the standalone server. -/
def serverName : String := "mailforge-server"

/-- The fault that an error of this machine stands for. -/
def faultOf : IO.Error → FileFault
  | .noFileOrDirectory .. => .notFound
  | .alreadyExists .. => .alreadyThere
  | .inappropriateType _ 20 _ => .notADirectory
  | .inappropriateType _ 21 _ => .isADirectory
  | .invalidArgument _ 36 _ => .nameTooLong
  | other => .other (toString other)

/-- The outcome of a use of the file at a path. -/
def attempt {Value : Type} (path : Path) (act : IO Value) :
    IO (Except FileFault Value) := do
  match path.fault? with
  | some fault => return .error fault
  | none =>
      match ← act.toBaseIO with
      | .ok value => return .ok value
      | .error error => return .error (faultOf error)

/-- What a path leads to on this machine. -/
def kindOf? (path : Path) : IO (Option FileKind) := do
  match ← attempt path (System.mkFilePath [path.text]).metadata with
  | .error _ => return none
  | .ok found =>
      match found.type with
      | .dir => return some .directory
      | _ => return some .file

def readText (path : Path) : IO (Except FileFault String) := do
  match ← attempt path (IO.FS.readBinFile path.text) with
  | .error fault => return .error fault
  | .ok bytes =>
      match String.fromUTF8? bytes with
      | some text => return .ok text
      | none => return .error .notText

/-- Everything at and below some parts below a directory. -/
partial def partsBelow (directory : Path) (parts : List String) :
    IO (List (List String)) := do
  let path :=
    if parts.isEmpty then directory else directory.join (Path.ofParts parts)
  match ← attempt path (System.mkFilePath [path.text]).readDir with
  | .error _ => return [parts]
  | .ok entries =>
      let nested ← entries.toList.mapM fun entry =>
        partsBelow directory (parts ++ [entry.fileName])
      return parts :: nested.flatten

instance : Files IO where
  kind? := kindOf?
  read := readText
  write path content := attempt path (IO.FS.writeFile path.text content)
  makeDirectory path := attempt path (IO.FS.createDir path.text)
  below path := partsBelow path []
  print text := IO.print text
  complain text := IO.eprint text

/-- The environment variables that are looked at. -/
def environment : IO (String → Option String) := do
  let values ← Mail.RelaySettings.variableNames.mapM fun name => do
    return (name, ← IO.getEnv name)
  return fun name => (Keyed.lookup name values).join

/-- The year of today's date in universal time. -/
def currentYear : IO Int := do
  let now ← Std.Time.Timestamp.now
  let days := now.toSecondsSinceUnixEpoch.val / 86400
  return (Std.Time.PlainDate.ofEpochDay ⟨days⟩).year.toInt

/-- Runs the program and gives the exit code. -/
def run (arguments : List String) : IO Nat := do
  let directory : Path := ⟨(← IO.currentDir).toString⟩
  let lookup ← environment
  if (← IO.appPath).fileName = some serverName then
    runServer directory lookup arguments
  else
    runCommandLine ⟨directory, ← currentYear, lookup⟩ arguments

end BlockMail.Program

def main (arguments : List String) : IO UInt32 := do
  return UInt32.ofNat (← BlockMail.Program.run arguments)
