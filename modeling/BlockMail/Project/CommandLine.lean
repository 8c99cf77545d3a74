import BlockMail.Project.Usage

/-!
# The command line

Carries out what a command line asks for and gives the exit code: 0 for success,
1 for a command that fails and 2 for arguments that are not valid.
-/

set_option autoImplicit false

namespace BlockMail.Project

structure Setting where
  directory : Path
  year : Int
  lookup : String → Option String

variable {m : Type → Type} [Monad m] [Files m]

def Invocation.carryOut (setting : Setting) : Invocation → Command m Unit
  | .start options => startProject setting.directory options
  | .compile options => compileProject setting.directory setting.year options
  | .serve options => serveProject setting.directory setting.lookup options

/-- Carries out a command, reports a failure and gives the exit code. -/
def Invocation.run (setting : Setting) (invocation : Invocation) : m Nat := do
  match ← (invocation.carryOut setting).run with
  | .ok () => return 0
  | .error error =>
      Files.complain (lines ["", "Error: " ++ error.message, ""])
      return 1

/-- Carries out a command line and gives the exit code. -/
def runCommandLine (setting : Setting) (arguments : List String) : m Nat :=
  match Request.ofArguments arguments with
  | .run invocation => invocation.run setting
  | .help topic => do
      Files.print topic.text
      return 0
  | .version => do
      Files.print versionText
      return 0
  | .misuse => do
      Files.complain misuseText
      return 2

end BlockMail.Project
