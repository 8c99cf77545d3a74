import BlockMail.Json.Writer
import BlockMail.Project.Command

/-!
# Starting a project

Writes a configuration, and a first template beside those that are there. A
configuration is only written over when that is asked for.
-/

set_option autoImplicit false

namespace BlockMail.Project

structure StartOptions where
  sourceDirectory : String
  force : Bool
deriving DecidableEq

def starterTemplate : Json :=
  .object
    [("name", .string "Welcome"), ("category", .string "Onboarding"),
      ("subject", .string "Welcome to \x7b\x7bcompany\x7d\x7d"),
      ("visibility", Visibility.ownerOnly.toJson),
      ("blocks", Blocks.toJson Starter.blocks)]

/-- The name of the file of the first template. -/
def starterName : String := "welcome.json"

/-- The configuration of a project whose templates are in a directory. -/
def configFor (sourceDirectory : String) : Config :=
  { Config.standard with sourceDirectory := sourceDirectory }

section

variable {m : Type → Type} [Monad m] [Files m]

/-- Says that something was created. -/
def sayCreated (name : String) : Command m Unit :=
  Command.say ("  ✓ Created " ++ name)

def writeProject (directory : Path) (options : StartOptions) :
    Command m Unit := do
  Command.say "📝 Initializing MailForge project..."
  let source := directory.join ⟨options.sourceDirectory⟩
  if !(← Command.step (Files.exists? source)) then
    Command.orFail .file (Files.makeDirectories source)
    sayCreated (options.sourceDirectory ++ "/")
  let starter := source.join ⟨starterName⟩
  if !(← Command.step (Files.exists? starter)) then
    Command.orFail .file (Files.write starter starterTemplate.pretty)
    sayCreated starterName
  let config := configFor options.sourceDirectory
  Command.orFail .file
    (Files.write (directory.join ⟨Config.fileName⟩) config.toJson.pretty)
  sayCreated Config.fileName
  Command.say ""
  Command.say "✅ Project initialized!"
  Command.say ""
  Command.say "Next steps:"
  Command.say
    ("  1. Edit " ++ options.sourceDirectory ++ "/" ++ starterName)
  Command.say "  2. Run: mailforge compile"
  Command.say ("  3. Check output in " ++ config.outputDirectory ++ "/")

def startProject (directory : Path) (options : StartOptions) : Command m Unit := do
  let configured ←
    Command.step (Files.exists? (directory.join ⟨Config.fileName⟩))
  if configured && !options.force then
    Command.say ("⚠️ " ++ Config.fileName ++ " already exists")
    Command.say "Use --force to overwrite"
  else writeProject directory options

end

end BlockMail.Project
