import BlockMail.Json.Basic
import BlockMail.Template.Identity
import BlockMail.Text.Blank

/-!
# Requests and responses

The parts of a request that the interface looks at, and of a response that it
decides. The requester is named by a header that a front end has verified.
-/

set_option autoImplicit false

namespace BlockMail.Http

/-- A request. The target is a path and perhaps a query, and may name the host
before them. -/
structure Request where
  method : String
  target : String
  /-- The bytes of the header that names the requester. -/
  user : Option (List UInt8)
  contentType : Option String
  body : String

/-- What a response carries. -/
inductive Body where
  | json (value : Json)
  | text (content : String)

structure Response where
  status : Nat
  contentType : Option String
  body : Body

/-! ## Targets -/

/-- The text behind `://`, if a scheme stands before that. A scheme holds no slash,
question mark or number sign. -/
def behindScheme? (target : List Char) : Option (List Char) :=
  let scheme := target.takeWhile fun char => !"/?#:".toList.contains char
  match target.drop scheme.length with
  | ':' :: '/' :: '/' :: rest => if scheme.isEmpty then none else some rest
  | _ => none

def withoutQuery (text : List Char) : List Char :=
  text.takeWhile fun char => !"?#".toList.contains char

/-- The path of a target. A target that names a scheme and a host has the path
behind them, which is the root when nothing stands there. -/
def targetPath (target : String) : List Char :=
  match behindScheme? target.toList with
  | none => withoutQuery target.toList
  | some rest =>
      let path :=
        withoutQuery (rest.dropWhile fun char => !"/?#".toList.contains char)
      if path.isEmpty then ['/'] else path

/-- A byte of visible ASCII, a blank or a tab. -/
def isHeaderByte (byte : UInt8) : Bool :=
  byte == 9 || (32 ≤ byte && byte < 127)

/-- A header value as text; none when it holds any other byte. -/
def headerText? (bytes : List UInt8) : Option String :=
  if bytes.all isHeaderByte then
    some (String.ofList (bytes.map fun byte => Char.ofNat byte.toNat))
  else none

/-- The user that a header value names. A value that is blank or not ASCII names
none. -/
def namedUser? (bytes : List UInt8) : Option UserId :=
  match (headerText? bytes).map Text.trimmed with
  | some name => if name.isEmpty then none else some ⟨name⟩
  | none => none

namespace Request

def requester (request : Request) : UserId :=
  (request.user.bind namedUser?).getD .anonymous

/-- The path of the target, without its query. -/
def path (request : Request) : List Char := targetPath request.target

end Request

namespace Response

def json (status : Nat) (value : Json) : Response :=
  ⟨status, some "application/json", .json value⟩

def plain (status : Nat) (content : String) : Response :=
  ⟨status, some "text/plain; charset=utf-8", .text content⟩

def page (content : String) : Response :=
  ⟨200, some "text/html; charset=utf-8", .text content⟩

/-- A status and nothing else. -/
def bare (status : Nat) : Response := ⟨status, none, .text ""⟩

def withoutBody (response : Response) : Response :=
  { response with body := .text "" }

/-- A JSON object that holds a message. -/
def message (status : Nat) (text : String) : Response :=
  json status (.object [("message", .string text)])

end Response

end BlockMail.Http
