import BlockMail.Project.Config
import BlockMail.Store.Error

/-!
# Commands

What the commands of a project have in common: why one fails, and the wording.
A file that is decoded while it is read reports any fault in the same words.
-/

set_option autoImplicit false

namespace BlockMail.Project

/-- Why a command fails. -/
inductive CommandError where
  | config (fault : Config.Fault)
  | missingSource (path : Path)
  | missingContext (path : Path) (fault : FileFault)
  | malformedContext (cause : DecodeError)
  | failedTemplates (count : Nat)
  | file (fault : FileFault)
  | invalidListenAddress (host : String) (port : Nat)
  | store (failure : Store.Failure)
  | transport (cause : Mail.TransportError)
deriving DecidableEq

namespace CommandError

/-- A failure to load a configuration, in words. -/
def configMessage : Config.Fault → String
  | .file fault => fault.message
  | .content _ => DecodeError.malformedText

/-- The cause in words. -/
def message : CommandError → String
  | .config fault => configMessage fault
  | .missingSource path =>
      "Source path does not exist: " ++ Text.quotedPath path.text
  | .missingContext path fault =>
      "Cannot read context file " ++ Text.quotedPath path.text ++ ": " ++
        fault.message
  | .malformedContext _ => DecodeError.malformedText
  | .failedTemplates count =>
      toString count ++ " templates failed to compile"
  | .file fault => fault.message
  | .invalidListenAddress host port =>
      "Invalid listen address " ++ host ++ ":" ++ toString port
  | .store failure => failure.message
  | .transport cause => cause.message

end CommandError

/-- A command of a project: it uses files and may fail. -/
abbrev Command (m : Type → Type) := ExceptT CommandError m

namespace Command

variable {m : Type → Type} [Monad m] {Result Cause : Type}

def orFail (failure : Cause → CommandError) (step : m (Except Cause Result)) :
    Command m Result := do
  match ← step with
  | .ok result => return result
  | .error cause => throw (failure cause)

/-- A step that does not fail. -/
def step (act : m Result) : Command m Result := ExceptT.lift act

variable [Files m]

def say (line : String) : Command m Unit := step (Files.printLine line)

end Command

end BlockMail.Project
