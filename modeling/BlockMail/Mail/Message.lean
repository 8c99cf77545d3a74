import BlockMail.Json.Basic
import BlockMail.Mail.Mailbox

/-!
# Messages

A rendered mail and the message that is made of it: headers, and the text before
the page, so that readers prefer the page. Line breaks are removed from the
subject, so it cannot add a header.
-/

set_option autoImplicit false

namespace BlockMail.Mail

/-- Why mail is not sent. -/
inductive TransportError where
  | invalidAddress (address : String)
  | missingConfig (what : String)
  | failed (reason : String)
  | inputOutput (reason : String)
deriving DecidableEq

/-- The cause in words. -/
def TransportError.message : TransportError → String
  | .invalidAddress address => "invalid recipient address: " ++ address
  | .missingConfig what => "missing mail configuration: " ++ what
  | .failed reason => "mail transport failed: " ++ reason
  | .inputOutput reason => "IO error: " ++ reason

structure OutgoingMail where
  sender : String
  recipient : String
  subject : String
  html : String
  text : String
deriving DecidableEq

/-- A hand-off that succeeded. -/
structure Delivery where
  messageId : String
  /-- The file that holds the message, if there is one. -/
  location : Option String
deriving DecidableEq

/-- One form of the content of a message. -/
structure Alternative where
  mediaType : String
  content : String
deriving DecidableEq

/-- A message. Its alternatives come in order of rising preference. -/
structure Message where
  sender : Mailbox
  recipient : Mailbox
  subject : String
  messageId : String
  alternatives : List Alternative
deriving DecidableEq

/-- The media type of the body of every message. -/
def Message.mediaType : String := "multipart/alternative"

/-- Checks that a text is an address and nothing else. -/
def checkAddress (address : String) : Except TransportError Unit :=
  if isAddress address then .ok () else .error (.invalidAddress address)

/-- The mailbox of a text, or the complaint that it is none. -/
def readMailbox (text : String) : Except TransportError Mailbox :=
  match Mailbox.ofText? text with
  | some mailbox => .ok mailbox
  | none => .error (.invalidAddress text)

/-- A text without line breaks. -/
def onOneLine (text : String) : String :=
  String.ofList (text.toList.filter fun char => char != '\r' && char != '\n')

namespace OutgoingMail

/-- The domain of message identifiers when the sender has none. -/
def fallbackDomain : String := "mailforge.local"

def senderDomain (mail : OutgoingMail) : String :=
  match Mailbox.ofText? mail.sender with
  | some mailbox => mailbox.domain
  | none => fallbackDomain

/-- The message identifier with a given local part. -/
def messageId (mail : OutgoingMail) (localPart : String) : String :=
  localPart ++ "@" ++ mail.senderDomain

/-- The message of a mail. The sender is read before the recipient. -/
def message (mail : OutgoingMail) (messageId : String) :
    Except TransportError Message := do
  let sender ← readMailbox mail.sender
  let recipient ← readMailbox mail.recipient
  return {
    sender := sender
    recipient := recipient
    subject := onOneLine mail.subject
    messageId := "<" ++ messageId ++ ">"
    alternatives :=
      [⟨"text/plain", mail.text⟩, ⟨"text/html", mail.html⟩] }

/-- The message of a mail whose recipient is a plain address, as every transport
wants it, and its identifier. -/
def prepared (mail : OutgoingMail) (localPart : String) :
    Except TransportError (Message × String) := do
  checkAddress mail.recipient
  let messageId := mail.messageId localPart
  let message ← mail.message messageId
  return (message, messageId)

def toJson (mail : OutgoingMail) : Json :=
  .object
    [("from", .string mail.sender), ("to", .string mail.recipient),
      ("subject", .string mail.subject), ("html", .string mail.html),
      ("text", .string mail.text)]

end OutgoingMail

end BlockMail.Mail
