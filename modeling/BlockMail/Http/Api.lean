import BlockMail.Http.MediaType
import BlockMail.Http.Message
import BlockMail.Http.Route
import BlockMail.Service.Basic
import BlockMail.Service.World

/-!
# The interface of the template service

Which request of the service an incoming request comes down to, and how its
outcome is answered. The path and the body are read before the service is asked.
-/

set_option autoImplicit false

namespace BlockMail.Http

/-! ## Bodies -/

/-- Why a body is refused. -/
inductive BodyFault where
  | notJson
  | tooLarge
  | malformed
  | wrongShape (cause : DecodeError)

/-- The largest body, in bytes. -/
def largestBody : Nat := 2097152

/-- How a refused body is answered. -/
def BodyFault.response : BodyFault → Response
  | .notJson => .plain 415 "The content type of the body is not JSON"
  | .tooLarge => .plain 413 "The body is too large"
  | .malformed => .plain 400 "The body is not JSON"
  | .wrongShape cause => .plain 422 cause.message

/-- Decodes the first JSON value of a body. -/
def readBody {Value : Type}
    (decode : Decode.Reading → Except DecodeError Value) (request : Request) :
    Except BodyFault Value :=
  if !request.contentType.any isJsonType then .error .notJson
  else if largestBody < request.body.utf8ByteSize then .error .tooLarge
  else
    match Decode.fromText decode request.body with
    | .ok value => .ok value
    | .error .malformed => .error .malformed
    | .error cause => .error (.wrongShape cause)

structure SendRequest where
  templateId : DocumentId
  recipient : String
  context : Option Context

section Fields

variable {Source : Type} [Decode.Carrier Source]

open Decode Decode.Fields

/-- The values in the body of a request for a preview. -/
def decodePreview : Decoder Source (Option Context) :=
  ((Fields.none fun context => context).and
    (optional "contextData" Context.decode)).decode "PreviewRequest"

def SendRequest.decode : Decoder Source SendRequest :=
  ((((Fields.none SendRequest.mk).and
    (required "templateId" DocumentId.decode)).and
    (required "recipientEmail" text)).and
    (optional "contextData" Context.decode)).decode "SendRequest"

end Fields

/-! ## Outcomes -/

def statusOf : ServiceError → Nat
  | .notFound _ => 404
  | .forbidden _ => 403
  | .invalidBlocks _ | .invalidRecipient _ => 400
  | .transport _ => 502
  | .unreadable _ _ | .store _ | .crashed _ => 500

/-- How a refusal is answered. -/
def refused (cause : ServiceError) : Response :=
  .message (statusOf cause) cause.message

/-- What an incoming request comes down to: an answer at once, or a request of
the service and how a result of it is answered. -/
inductive Handling where
  | answered (response : Response)
  | asked {Result : Type} (request : Service.Request Result)
      (respond : Result → Response)

/-- The rest of the handling for a body that is accepted. -/
def withBody {Value : Type} (body : Except BodyFault Value)
    (handle : Value → Handling) : Handling :=
  match body with
  | .ok value => handle value
  | .error fault => .answered fault.response

/-- The rest of the handling for an identifier in a path that is text. -/
def withIdentifier (part : List Char) (handle : DocumentId → Handling) :
    Handling :=
  match identifier? part with
  | some id => handle ⟨id⟩
  | none => .answered (.plain 400 "The path is not text")

def handlingOf (service : Service) (request : Request) (action : Action)
    (fresh : DocumentId) (now : Time.Instant) : Handling :=
  let user := request.requester
  match action with
  | .health => .answered (.plain 200 "MailForge API is running")
  | .list =>
      .asked (Service.list user) fun summaries =>
        .json 200 (.array (summaries.map Summary.toJson))
  | .create =>
      withBody (readBody NewDocument.decode request) fun input =>
        .asked (Service.create user input fresh now) fun id =>
          .json 201 (.object [("id", id.toJson)])
  | .categories =>
      .asked (Service.categories user) fun names =>
        .json 200 (.array (names.map .string))
  | .fetch part =>
      withIdentifier part fun id =>
        .asked (Service.fetch id user) fun document =>
          .json 200 document.toJson
  | .save part =>
      withIdentifier part fun id =>
        withBody (readBody DocumentPatch.decode request) fun patch =>
          .asked (Service.save id user patch fresh now) fun outcome =>
            .json 200 outcome.toJson
  | .delete part =>
      withIdentifier part fun id =>
        .asked (Service.delete id user) fun _ =>
          .message 200 "Template deleted"
  | .preview part =>
      withIdentifier part fun id =>
        let context := ((readBody decodePreview request).toOption).join
        .asked (service.preview id user context) Response.page
  | .send =>
      withBody (readBody SendRequest.decode request) fun input =>
        .asked
          (service.send input.templateId user input.recipient input.context)
          fun delivery =>
            .json 200
              (.object
                [("message", .string "Email sent successfully"),
                  ("messageId", .string delivery.messageId)])

/-- The handling of an incoming request. Asking for the options of any path is
always answered. -/
def handling (service : Service) (request : Request) (fresh : DocumentId)
    (now : Time.Instant) : Handling :=
  if request.method = "OPTIONS" then .answered (.bare 200)
  else
    match Route.ofPath? request.path with
    | none => .answered (.bare 404)
    | some route =>
        match route.action? request.method with
        | none => .answered (.bare 405)
        | some action => handlingOf service request action fresh now

def carryOut (world : Service.World) (now : Time.Instant) :
    Handling → Service.World × Response
  | .answered response => (world, response)
  | .asked request respond =>
      match world.run now request.run with
      | (after, .ok result) => (after, respond result)
      | (after, .error cause) => (after, refused cause)

/-- The world after an incoming request, and the response. `fresh` is the
identifier for a document that the request makes. -/
def respond (service : Service) (world : Service.World) (request : Request)
    (fresh : DocumentId) (now : Time.Instant) : Service.World × Response :=
  let (after, response) :=
    carryOut world now (handling service request fresh now)
  (after,
    if request.method = "HEAD" then response.withoutBody else response)

end BlockMail.Http
