import BlockMail.Mail.Message
import BlockMail.Store.Error

/-!
# Refusals of the service

Why a request to the template service fails, and the wording.
-/

set_option autoImplicit false

namespace BlockMail

/-- Why a request fails. -/
inductive ServiceError where
  | notFound (id : DocumentId)
  | forbidden (id : DocumentId)
  | invalidBlocks (cause : BlocksError)
  | invalidRecipient (cause : Mail.TransportError)
  /-- The stored blocks of a document do not decode. -/
  | unreadable (id : DocumentId) (cause : BlocksError)
  | transport (cause : Mail.TransportError)
  | store (failure : Store.Failure)
  /-- The request was broken off. -/
  | crashed (description : String)
deriving DecidableEq

namespace ServiceError

/-- The complaint about a request that is not valid in itself. -/
def invalidMessage (reason : String) : String := "invalid request: " ++ reason

/-- The cause in words. -/
def message : ServiceError → String
  | .notFound id => "template not found: " ++ id.text
  | .forbidden id => "not allowed to modify template " ++ id.text
  | .invalidBlocks cause => invalidMessage cause.message
  | .invalidRecipient cause => invalidMessage cause.message
  | .unreadable id cause =>
      "stored template " ++ id.text ++ " is unreadable: " ++ cause.message
  | .transport cause => cause.message
  | .store failure => failure.message
  | .crashed description => "internal error: " ++ description

end ServiceError

end BlockMail
