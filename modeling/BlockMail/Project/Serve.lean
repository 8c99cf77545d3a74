import BlockMail.Http.SocketAddress
import BlockMail.Project.Command
import BlockMail.Project.Database

/-!
# Getting ready to serve

The checks that are made before the interface is served: where it listens, that
the database can be opened, and how mail goes out.
-/

set_option autoImplicit false

namespace BlockMail.Project

/-- What serving is asked with; the configuration has the rest. -/
structure ServeOptions where
  port : Option Nat
  host : Option String
deriving DecidableEq

/-- How mail goes out. -/
inductive Delivery where
  | relay (settings : Mail.RelaySettings)
  | outbox (directory : Path)
deriving DecidableEq

/-- The way of delivery, as shown when serving starts. -/
def Delivery.label : Delivery → String
  | .relay settings =>
      "smtp://" ++ settings.host ++ ":" ++ toString settings.effectivePort
  | .outbox directory => directory.text

/-- What serving needs, once it has been checked. -/
structure Readiness where
  address : Http.SocketAddress
  database : Path
  delivery : Delivery
deriving DecidableEq

section

variable {m : Type → Type} [Monad m] [Files m]

/-- The way of delivery: the configured relay, else the one that the environment
names, else the outbox. -/
def deliveryOf (config : Config) (outbox : Path)
    (lookup : String → Option String) :
    Except Mail.TransportError Delivery :=
  match config.relay with
  | some settings => .ok (.relay settings)
  | none =>
      if (lookup "SMTP_HOST").isSome then
        (Mail.RelaySettings.ofVariables lookup).map .relay
      else .ok (.outbox outbox)

/-- Makes the project in a directory ready to be served. -/
def prepare (directory : Path) (lookup : String → Option String)
    (options : ServeOptions) : Command m Readiness := do
  let config ← Command.orFail .config (Config.load directory)
  let host := options.host.getD config.host
  let port := options.port.getD config.port
  let some address := Http.SocketAddress.ofText? (host ++ ":" ++ toString port)
    | throw (.invalidListenAddress host port)
  let database := directory.join ⟨config.database⟩
  Command.orFail .store (openDatabase id database)
  let outbox := directory.join ⟨config.outboxDirectory⟩
  match deliveryOf config outbox lookup with
  | .ok delivery => return ⟨address, database, delivery⟩
  | .error cause => throw (.transport cause)

/-- Gets ready to serve and says so. No address is there to listen on. -/
def serveProject (directory : Path) (lookup : String → Option String)
    (options : ServeOptions) : Command m Unit := do
  let ready ← prepare directory lookup options
  Command.say "📬 Starting MailForge server..."
  Command.say ("  Database: " ++ ready.database.text)
  Command.say ("  Delivery: " ++ ready.delivery.label)
  Command.say ("  Listening on http://" ++ ready.address.text)
  throw (.file .foreignAddress)

end

end BlockMail.Project
