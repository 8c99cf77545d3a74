import BlockMail.Mail.Message

/-!
# The outbox

A directory in which every mail becomes a file. It is made when the first mail
passes the checks of every transport.
-/

set_option autoImplicit false

namespace BlockMail.Mail

/-- A directory and the messages in it by file name, once it exists. -/
structure Outbox where
  directory : String
  files : Option (List (String × Message))

namespace Outbox

/-- An outbox whose directory does not exist. -/
def missing (directory : String) : Outbox := ⟨directory, none⟩

def extension : String := "eml"

/-- The outbox after a mail was handed to it, and what became of the mail.
`localPart` is that of the message identifier and `stem` the new file's name
without its extension. -/
def send (outbox : Outbox) (mail : OutgoingMail) (localPart stem : String) :
    Outbox × Except TransportError Delivery :=
  match mail.prepared localPart with
  | .error cause => (outbox, .error cause)
  | .ok (message, messageId) =>
      let name := stem ++ "." ++ extension
      ({ outbox with files := some (outbox.files.getD [] ++ [(name, message)]) },
        .ok ⟨messageId, some (outbox.directory ++ "/" ++ name)⟩)

end Outbox

end BlockMail.Mail
