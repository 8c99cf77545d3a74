import BlockMail.Project.Serve
import BlockMail.Project.Usage

/-!
# The standalone server

Its arguments, and the checks it makes before it serves. Arguments are read from
the left, each option but `--smtp` with the next argument for its value.
-/

set_option autoImplicit false

namespace BlockMail.Project

structure ServerOptions where
  host : String
  port : Nat
  database : String
  outbox : String
  sender : String
  throughRelay : Bool
deriving DecidableEq

/-- The options of a server started without arguments; mail goes through a relay
when the environment names one. -/
def ServerOptions.standard (lookup : String → Option String) : ServerOptions :=
  { host := "127.0.0.1"
    port := 5000
    database := "mailforge.db"
    outbox := "outbox"
    sender := Service.defaultSender
    throughRelay := (lookup "SMTP_HOST").isSome }

/-- Why the server does not start. -/
inductive ServerError where
  | needsValue (flag : String)
  | invalidPort (value : String) (fault : Number.PortFault)
  | unknownArgument (flag : String)
  | store (failure : Store.Failure)
  | transport (cause : Mail.TransportError)
  | invalidListenAddress
  | file (fault : FileFault)
deriving DecidableEq

namespace ServerError

def message : ServerError → String
  | .needsValue flag => flag ++ " requires a value"
  | .invalidPort value _ => "Invalid port number: " ++ value
  | .unknownArgument flag => "Unknown argument: " ++ flag
  | .store failure => failure.message
  | .transport cause => cause.message
  | .invalidListenAddress => "Invalid listen address"
  | .file fault => fault.message

/-- What lies behind the error, in words. -/
def cause? : ServerError → Option String
  | .invalidPort _ fault => some fault.message
  | .invalidListenAddress => some "invalid socket address syntax"
  | _ => none

def report (error : ServerError) : String :=
  match error.cause? with
  | some cause =>
      lines ["Error: " ++ error.message, "", "Caused by:", "    " ++ cause]
  | none => lines ["Error: " ++ error.message]

end ServerError

/-- Reads the arguments of the server; none when help is asked for. -/
def readServerArguments (options : ServerOptions) :
    List String → Except ServerError (Option ServerOptions)
  | [] => .ok (some options)
  | "--help" :: _ => .ok none
  | "-h" :: _ => .ok none
  | "--smtp" :: rest =>
      readServerArguments { options with throughRelay := true } rest
  | [flag] => .error (.needsValue flag)
  | flag :: value :: rest =>
      if flag = "--port" ∨ flag = "-p" then
        match Number.readPort value with
        | .ok port => readServerArguments { options with port := port } rest
        | .error fault => .error (.invalidPort value fault)
      else if flag = "--host" then
        readServerArguments { options with host := value } rest
      else if flag = "--database" then
        readServerArguments { options with database := value } rest
      else if flag = "--outbox" then
        readServerArguments { options with outbox := value } rest
      else if flag = "--sender" then
        readServerArguments { options with sender := value } rest
      else .error (.unknownArgument flag)

/-- The name of a database that is kept in memory. -/
def memoryDatabase : String := ":memory:"

section

variable {m : Type → Type} [Monad m] [Files m]

/-- Checks that the database can be opened. -/
def openServerDatabase (directory : Path) (options : ServerOptions) :
    m (Except ServerError Unit) := do
  if options.database = memoryDatabase then return .ok ()
  else
    match ← openDatabase directory.join ⟨options.database⟩ with
    | .ok () => return .ok ()
    | .error failure => return .error (.store failure)

/-- The lines with which the server starts. -/
def serverGreeting (options : ServerOptions) (address : Http.SocketAddress) :
    List String :=
  ["Starting MailForge server...", "Database: " ++ options.database,
    if options.throughRelay then "Delivery: smtp ($SMTP_HOST)"
    else "Outbox: " ++ options.outbox,
    "HTTP listening on " ++ address.text]

def ServerOptions.address? (options : ServerOptions) :
    Option Http.SocketAddress :=
  Http.SocketAddress.ofText? (options.host ++ ":" ++ toString options.port)

/-- Starts the server in a directory. No address is there to listen on. -/
def startServer (directory : Path) (lookup : String → Option String)
    (arguments : List String) : ExceptT ServerError m Unit := do
  match readServerArguments (.standard lookup) arguments with
  | .error cause => throw cause
  | .ok none => ExceptT.lift (Files.print serverUsage)
  | .ok (some options) =>
      ExceptT.mk (openServerDatabase directory options)
      if options.throughRelay then
        if let .error cause := Mail.RelaySettings.ofVariables lookup then
          throw (.transport cause)
      let some address := options.address? | throw .invalidListenAddress
      ExceptT.lift (Files.print (lines (serverGreeting options address)))
      throw (.file .foreignAddress)

/-- Runs the server and gives the exit code. -/
def runServer (directory : Path) (lookup : String → Option String)
    (arguments : List String) : m Nat := do
  match ← (startServer directory lookup arguments).run with
  | .ok () => return 0
  | .error error =>
      Files.complain error.report
      return 1

end

end BlockMail.Project
