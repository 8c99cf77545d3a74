import BlockMail.Mail.Relay
import BlockMail.Project.Files
import BlockMail.Service.Basic

/-!
# The configuration of a project

Where templates and output are, how mail goes out and where the interface
listens. Every field has a default, and so has the whole file.
-/

set_option autoImplicit false

namespace BlockMail.Project

structure Config where
  sourceDirectory : String
  outputDirectory : String
  database : String
  outboxDirectory : String
  sender : String
  relay : Option Mail.RelaySettings
  host : String
  port : Nat
  defaultContext : Context

namespace Config

/-- The name of the file that holds the configuration. -/
def fileName : String := "mailforge.config.json"

/-- The configuration of a project without such a file. -/
def standard : Config :=
  { sourceDirectory := "templates"
    outputDirectory := "dist"
    database := "mailforge.db"
    outboxDirectory := "outbox"
    sender := Service.defaultSender
    relay := none
    host := "127.0.0.1"
    port := 5000
    defaultContext := .empty }

def toJson (config : Config) : Json :=
  .object
    ([("srcDir", .string config.sourceDirectory),
        ("outDir", .string config.outputDirectory),
        ("database", .string config.database),
        ("outboxDir", .string config.outboxDirectory),
        ("sender", .string config.sender)] ++
      Json.memberIfSome "smtp" Mail.RelaySettings.toJson config.relay ++
      [("host", .string config.host), ("port", .ofNat config.port),
        ("defaultContext", config.defaultContext.toJson)])

section Fields

variable {Source : Type} [Decode.Carrier Source]

open Decode Decode.Fields

def decode : Decoder Source Config :=
  ((((((((((Fields.none Config.mk).and
    (defaulted "srcDir" standard.sourceDirectory text)).and
    (defaulted "outDir" standard.outputDirectory text)).and
    (defaulted "database" standard.database text)).and
    (defaulted "outboxDir" standard.outboxDirectory text)).and
    (defaulted "sender" standard.sender text)).and
    (optional "smtp" Mail.RelaySettings.decode)).and
    (defaulted "host" standard.host text)).and
    (defaulted "port" standard.port Mail.RelaySettings.portDecoder)).and
    (defaulted "defaultContext" standard.defaultContext Context.decode)).decode
    "Config"

end Fields

/-- Why a configuration is not loaded. -/
inductive Fault where
  | file (fault : FileFault)
  | content (cause : DecodeError)
deriving DecidableEq

/-- The configuration that a text holds. -/
def ofText (text : String) : Except Fault Config :=
  match Decode.fromWholeText decode text with
  | .ok config => .ok config
  | .error cause => .error (.content cause)

def load {m : Type → Type} [Monad m] [Files m] (directory : Path) :
    m (Except Fault Config) := do
  let path := directory.join ⟨fileName⟩
  if ← Files.exists? path then
    match ← Files.read path with
    | .ok text => return ofText text
    | .error fault => return .error (.file fault)
  else return .ok standard

end Config

end BlockMail.Project
