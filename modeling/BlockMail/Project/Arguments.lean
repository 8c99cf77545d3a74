import BlockMail.Number.Port
import BlockMail.Project.Compile
import BlockMail.Project.Serve
import BlockMail.Project.Start

/-!
# Arguments of the command line

Options have a long name and perhaps a letter; letters can be written together,
and a value is attached, follows an equals sign or is the next argument. An
option is given once at most. What follows `--` is no option. Arguments are read
from the left, and the first that asks for help or is at fault decides.
-/

set_option autoImplicit false

namespace BlockMail.Project

/-- An option of a command. `admits` checks its value, if it takes one. -/
structure OptionShape where
  long : String
  letter : Option Char
  takesValue : Bool
  admits : String → Bool

namespace OptionShape

/-- An option without a value. -/
def switch (long : String) (letter : Option Char) : OptionShape :=
  ⟨long, letter, false, fun _ => true⟩

def text (long : String) (letter : Option Char) : OptionShape :=
  ⟨long, letter, true, fun _ => true⟩

end OptionShape

structure CommandShape where
  options : List OptionShape
  takesPath : Bool

/-- Options with their values, and a path. -/
structure Given where
  options : List (String × String)
  path : Option String

/-- Why the reading of arguments stops early. -/
inductive Stop where
  | help
  | misuse
deriving DecidableEq

namespace Given

def none : Given := ⟨[], .none⟩

def add (given : Given) (shape : OptionShape) (value : String) :
    Except Stop Given :=
  if (Keyed.lookup shape.long given.options).isSome || !shape.admits value then
    .error .misuse
  else .ok { given with options := given.options ++ [(shape.long, value)] }

def addPath (given : Given) (shape : CommandShape) (path : String) :
    Except Stop Given :=
  if !shape.takesPath || given.path.isSome then .error .misuse
  else .ok { given with path := some path }

def has (given : Given) (long : String) : Bool :=
  (Keyed.lookup long given.options).isSome

def value? (given : Given) (long : String) : Option String :=
  Keyed.lookup long given.options

end Given

inductive Reading where
  | done (given : Given)
  /-- An option is to get the next argument for a value. -/
  | awaiting (given : Given) (shape : OptionShape)
  | stop (reason : Stop)

def Reading.ofAdded : Except Stop Given → Reading
  | .ok given => .done given
  | .error reason => .stop reason

/-- Whether an argument looks like an option, and so is no value. -/
def looksLikeOption (argument : String) : Bool :=
  argument.toList.head? == some '-' && argument != "-"

/-- Reads an argument behind its two dashes. -/
def readLong (shape : CommandShape) (given : Given) (text : List Char) :
    Reading :=
  let (name, value) :=
    match Text.splitAtFirst? '=' text with
    | some (name, value) => (String.ofList name, some (String.ofList value))
    | none => (String.ofList text, none)
  if name = "help" then .stop (if value.isSome then .misuse else .help)
  else
    match shape.options.find? fun option => option.long == name with
    | none => .stop .misuse
    | some option =>
        match option.takesValue, value with
        | true, some value => .ofAdded (given.add option value)
        | true, none => .awaiting given option
        | false, none => .ofAdded (given.add option "")
        | false, some _ => .stop .misuse

/-- Reads letters behind a dash. -/
def readLetters (shape : CommandShape) (given : Given) : List Char → Reading
  | [] => .done given
  | 'h' :: _ => .stop .help
  | letter :: rest =>
      match shape.options.find? fun option => option.letter == some letter with
      | none => .stop .misuse
      | some option =>
          if option.takesValue then
            match rest with
            | [] => .awaiting given option
            | '=' :: value => .ofAdded (given.add option (String.ofList value))
            | value => .ofAdded (given.add option (String.ofList value))
          else
            match given.add option "" with
            | .ok given => readLetters shape given rest
            | .error reason => .stop reason

def readOne (shape : CommandShape) (given : Given) (argument : String) :
    Reading :=
  match argument.toList with
  | '-' :: '-' :: text => readLong shape given text
  | '-' :: letter :: rest => readLetters shape given (letter :: rest)
  | _ => .ofAdded (given.addPath shape argument)

def readPaths (shape : CommandShape) (given : Given) :
    List String → Except Stop Given
  | [] => .ok given
  | path :: rest => do readPaths shape (← given.addPath shape path) rest

/-- Reads the arguments of a command. `pending` is an option that waits for its
value. -/
def readArguments (shape : CommandShape) (given : Given)
    (pending : Option OptionShape) : List String → Except Stop Given
  | [] => if pending.isSome then .error .misuse else .ok given
  | argument :: rest =>
      match pending with
      | some option =>
          if looksLikeOption argument then .error .misuse
          else do readArguments shape (← given.add option argument) none rest
      | none =>
          if argument = "--" then readPaths shape given rest
          else
            match readOne shape given argument with
            | .done given => readArguments shape given none rest
            | .awaiting given option => readArguments shape given (some option) rest
            | .stop reason => .error reason

/-! ## The commands -/

/-- The port that a value names: as for any port, and a zero may have a sign. -/
def portOfValue? (value : String) : Option Nat :=
  match value.toList with
  | '-' :: digits =>
      if !digits.isEmpty && digits.all (· == '0') then some 0 else none
  | _ => (Number.readPort value).toOption

inductive CommandName where
  | start
  | compile
  | serve
deriving DecidableEq

namespace CommandName

def all : List CommandName := [.start, .compile, .serve]

def name : CommandName → String
  | .start => "init"
  | .compile => "compile"
  | .serve => "serve"

def ofName? (name : String) : Option CommandName :=
  all.find? fun command => command.name == name

def shape : CommandName → CommandShape
  | .start => ⟨[.text "src-dir" (some 's'), .switch "force" (some 'f')], false⟩
  | .compile =>
      ⟨[.switch "stdout" none, .text "out-dir" (some 'o'),
          .text "context" (some 'c'), .switch "text" none,
          .switch "compact" none],
        true⟩
  | .serve =>
      ⟨[⟨"port", some 'p', true, fun value => (portOfValue? value).isSome⟩,
          .text "host" none],
        false⟩

end CommandName

inductive Invocation where
  | start (options : StartOptions)
  | compile (options : CompileOptions)
  | serve (options : ServeOptions)
deriving DecidableEq

def CommandName.invocation (command : CommandName) (given : Given) :
    Invocation :=
  match command with
  | .start =>
      .start ⟨(given.value? "src-dir").getD Config.standard.sourceDirectory,
        given.has "force"⟩
  | .compile =>
      .compile
        { path := given.path
          toTerminal := given.has "stdout"
          outputDirectory := given.value? "out-dir"
          contextFile := given.value? "context"
          withText := given.has "text"
          compact := given.has "compact" }
  | .serve =>
      .serve ⟨(given.value? "port").bind portOfValue?, given.value? "host"⟩

inductive Topic where
  | program
  | command (name : CommandName)
  | help
deriving DecidableEq

/-- What a command line asks for. -/
inductive Request where
  | run (invocation : Invocation)
  | help (topic : Topic)
  | version
  | misuse
deriving DecidableEq

def helpOn : List String → Request
  | [] => .help .program
  | ["help"] => .help .help
  | [name] =>
      match CommandName.ofName? name with
      | some command => .help (.command command)
      | none => .misuse
  | _ => .misuse

def CommandName.request (command : CommandName) (arguments : List String) :
    Request :=
  match readArguments command.shape .none none arguments with
  | .ok given => .run (command.invocation given)
  | .error .help => .help (.command command)
  | .error .misuse => .misuse

/-- The request that a command line makes. -/
def Request.ofArguments : List String → Request
  | [] => .misuse
  | first :: rest =>
      if first = "--help" then .help .program
      else if first = "--version" then .version
      else if first = "help" then helpOn rest
      else
        match first.toList with
        | '-' :: 'h' :: _ => .help .program
        | '-' :: 'V' :: _ => .version
        | _ =>
            match CommandName.ofName? first with
            | some command => command.request rest
            | none => .misuse

end BlockMail.Project
