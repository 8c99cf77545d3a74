import BlockMail.Html.Page
import BlockMail.Html.PlainText
import BlockMail.Project.Command

/-!
# Compiling templates

Turns the template files of a project into pages, and into plain text where that
is asked for. A template that fails does not keep the others from being written.
-/

set_option autoImplicit false

namespace BlockMail.Project

/-- What a compilation is asked with. -/
structure CompileOptions where
  path : Option String
  toTerminal : Bool
  outputDirectory : Option String
  contextFile : Option String
  withText : Bool
  compact : Bool
deriving DecidableEq

inductive TemplateError where
  | file (fault : FileFault)
  | notJson
  | blocks (cause : BlocksError)
deriving DecidableEq

/-- The cause in words. -/
def TemplateError.message : TemplateError → String
  | .file fault => fault.message
  | .notJson => DecodeError.malformedText
  | .blocks cause => cause.message

/-! ## Template files -/

/-- The payload of blocks in a template: an object's member `blocks`, else its
member `sections`, else nothing; any other value is a payload itself. -/
def payloadOf : Json → Json
  | .object members =>
      match Keyed.lookup "blocks" members with
      | some payload => payload
      | none => (Keyed.lookup "sections" members).getD .null
  | other => other

def readBlocks (source : String) : Except TemplateError (List Block) :=
  match Json.parse? source with
  | none => .error .notJson
  | some value =>
      match Blocks.decodeValid (payloadOf value) with
      | .ok blocks => .ok blocks
      | .error cause => .error (.blocks cause)

/-- How pages of a compilation are written. -/
def CompileOptions.page (options : CompileOptions) : Html.PageOptions :=
  { Html.PageOptions.default with pretty := !options.compact }

/-- The samples of a year, overlaid by the defaults of a project. -/
def projectContext (config : Config) (year : Int) : Context :=
  (Starter.sampleContext year).overlay config.defaultContext

/-! ## Finding and writing -/

def templateExtension : String := "json"

section

variable {m : Type → Type} [Monad m] [Files m]

/-- The values for placeholders, with those of a file on top. -/
def loadContext (directory : Path) (config : Config) (year : Int)
    (file : Option String) : Command m Context := do
  let base := projectContext config year
  match file with
  | none => return base
  | some name =>
      let path := directory.join ⟨name⟩
      let text ← Command.orFail (.missingContext path) (Files.read path)
      match Decode.fromWholeText Context.decode text with
      | .ok extra => return base.overlay extra
      | .error cause => throw (.malformedContext cause)

/-- A template file and the path under which its output is named. -/
structure Source where
  path : Path
  relative : Path
deriving DecidableEq

/-- The template at some parts below a directory. -/
def sourceAt (directory : Path) (parts : List String) : Source :=
  let relative := Path.ofParts parts
  if parts.isEmpty then ⟨directory, relative⟩
  else ⟨directory.join relative, relative⟩

/-- Whether a template is recognised by its extension. -/
def Source.isTemplate (source : Source) : Bool :=
  source.path.extension? == some templateExtension

/-- The templates at and below a directory, in order of the parts of their
paths. A directory with the extension is taken for a template. -/
def findSources (directory : Path) : m (List Source) := do
  let places ← Files.below directory
  let sorted := places.mergeSort fun first second =>
    !second.lex first fun part other => decide (part < other)
  return (sorted.map (sourceAt directory)).filter Source.isTemplate

/-- The templates that a path stands for: those of a directory, or a file of any
name. -/
def sourcesOf (path : Path) : m (List Source) := do
  if (← Files.kind? path) = some .file then
    return [⟨path, ⟨path.fileName?.getD ""⟩⟩]
  else findSources path

/-- Where the output of a template goes. -/
def outputPath (outputDirectory : Path) (source : Source) : Path :=
  (outputDirectory.join source.relative).withExtension "html"

/-- Writes the page of a template, and its text where that is asked for. -/
def writeOutput (options : CompileOptions) (output : Path)
    (html text : String) : ExceptT FileFault m Unit := do
  match output.parent? with
  | some parent => ExceptT.mk (Files.makeDirectories parent)
  | none => pure ()
  ExceptT.mk (Files.write output html)
  if options.withText then
    ExceptT.mk (Files.write (output.withExtension "txt") text)

/-- Compiles one template and says where its page went. -/
def compileSource (options : CompileOptions) (context : Context)
    (outputDirectory : Path) (source : Source) :
    m (Except TemplateError String) := do
  match ← Files.read source.path with
  | .error fault => return .error (.file fault)
  | .ok content =>
      match readBlocks content with
      | .error cause => return .error cause
      | .ok blocks =>
          let html := Html.page blocks context options.page
          if options.toTerminal then
            Files.printLine html
            return .ok "stdout"
          else
            let output := outputPath outputDirectory source
            let text := Html.plainPage blocks context
            match ← (writeOutput options output html text).run with
            | .ok () => return .ok output.text
            | .error fault => return .error (.file fault)

/-- Compiles templates one after the other, reports each, and counts those that
failed. -/
def compileSources (options : CompileOptions) (context : Context)
    (outputDirectory : Path) : List Source → m Nat
  | [] => return 0
  | source :: rest => do
      match ← compileSource options context outputDirectory source with
      | .ok target =>
          Files.printLine ("  ✓ " ++ source.relative.text ++ " → " ++ target)
          compileSources options context outputDirectory rest
      | .error cause =>
          Files.complainLine
            ("  ✗ " ++ source.relative.text ++ " - " ++ cause.message)
          return (← compileSources options context outputDirectory rest) + 1

/-- Says how a compilation of so many templates went. -/
def summarise (total failed : Nat) : Command m Unit := do
  let compiled := toString (total - failed)
  Command.say ""
  if failed = 0 then
    Command.say ("✅ Compiled " ++ compiled ++ " files successfully")
  else
    Command.say
      ("⚠️ Compiled " ++ compiled ++ " files, " ++ toString failed ++ " errors")
    throw (.failedTemplates failed)

def compileProject (directory : Path) (year : Int) (options : CompileOptions) :
    Command m Unit := do
  let config ← Command.orFail .config (Config.load directory)
  let source :=
    directory.join ⟨options.path.getD config.sourceDirectory⟩
  if !(← Command.step (Files.exists? source)) then throw (.missingSource source)
  let context ← loadContext directory config year options.contextFile
  Command.say "🔨 Compiling templates..."
  let sources ← Command.step (sourcesOf source)
  if sources.isEmpty then Command.say "⚠️  No template files found"
  else
    Command.say ("Found " ++ toString sources.length ++ " files")
    let outputDirectory :=
      directory.join ⟨options.outputDirectory.getD config.outputDirectory⟩
    let failed ←
      Command.step (compileSources options context outputDirectory sources)
    summarise sources.length failed

end

end BlockMail.Project
