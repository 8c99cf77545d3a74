import BlockMail.Mail.MemoryTransport
import BlockMail.Text.Blank

/-!
# Any notion of an address

The checks of a mail and the memory transport, for any idea of which texts are addresses
and which are mailboxes. With the idea of the mail library they are what mail goes through.
-/

set_option autoImplicit false

namespace BlockMail.Mail

/-- Which texts are addresses, and which are mailboxes. -/
structure Admission where
  isAddress : String → Bool
  mailbox? : String → Option Mailbox

namespace Admission

/-- What the mail library takes for addresses and mailboxes. -/
def standard : Admission := ⟨Mail.isAddress, Mailbox.ofText?⟩

variable (admission : Admission)

def checkAddress (address : String) : Except TransportError Unit :=
  if admission.isAddress address then .ok () else .error (.invalidAddress address)

def readMailbox (text : String) : Except TransportError Mailbox :=
  match admission.mailbox? text with
  | some mailbox => .ok mailbox
  | none => .error (.invalidAddress text)

def senderDomain (mail : OutgoingMail) : String :=
  match admission.mailbox? mail.sender with
  | some mailbox => mailbox.domain
  | none => OutgoingMail.fallbackDomain

def message (mail : OutgoingMail) (messageId : String) : Except TransportError Message := do
  let sender ← admission.readMailbox mail.sender
  let recipient ← admission.readMailbox mail.recipient
  return {
    sender := sender
    recipient := recipient
    subject := onOneLine mail.subject
    messageId := "<" ++ messageId ++ ">"
    alternatives :=
      [⟨"text/plain", mail.text⟩, ⟨"text/html", mail.html⟩] }

def prepared (mail : OutgoingMail) (localPart : String) :
    Except TransportError (Message × String) := do
  admission.checkAddress mail.recipient
  let messageId := localPart ++ "@" ++ admission.senderDomain mail
  let message ← admission.message mail messageId
  return (message, messageId)

/-- Why a memory transport refuses a mail, if it does. -/
def refusal? (transport : MemoryTransport) (mail : OutgoingMail) : Option TransportError :=
  match admission.prepared mail "" with
  | .error cause => some cause
  | .ok _ => transport.failure.map .failed

/-- A memory transport after a mail was handed to it, and what became of the mail. -/
def send (transport : MemoryTransport) (mail : OutgoingMail) :
    MemoryTransport × Except TransportError Delivery :=
  match admission.refusal? transport mail with
  | some cause => (transport, .error cause)
  | none =>
      let sent := transport.sent ++ [mail]
      ({ transport with sent := sent },
        .ok ⟨"memory-" ++ toString sent.length, none⟩)

theorem checkAddress_standard : standard.checkAddress = Mail.checkAddress := rfl

theorem send_standard : standard.send = MemoryTransport.send := rfl

/-! ## What is accepted -/

/-- A mail between two mailboxes to a plain address is prepared as one message. -/
theorem prepared_eq_ok (mail : OutgoingMail) (localPart : String) :
    (∃ prepared, admission.prepared mail localPart = .ok prepared) ↔
      admission.isAddress mail.recipient = true ∧
        (admission.mailbox? mail.sender).isSome ∧
        (admission.mailbox? mail.recipient).isSome := by
  unfold prepared checkAddress message readMailbox
  cases admission.isAddress mail.recipient <;>
    cases admission.mailbox? mail.sender <;>
      cases admission.mailbox? mail.recipient <;>
        simp [bind, Except.bind, pure, Except.pure]

variable {admission} {transport : MemoryTransport} {mail : OutgoingMail}

theorem refusal?_eq_none :
    admission.refusal? transport mail = none ↔
      admission.isAddress mail.recipient = true ∧
        (admission.mailbox? mail.sender).isSome ∧
        (admission.mailbox? mail.recipient).isSome ∧ transport.failure = none := by
  have ready := admission.prepared_eq_ok mail ""
  unfold refusal?
  cases made : admission.prepared mail "" with
  | error cause =>
      rw [made] at ready
      simp only [reduceCtorEq, exists_false, false_iff] at ready
      simp only [reduceCtorEq, false_iff]
      rintro ⟨address, sender, recipient, _⟩
      exact ready ⟨address, sender, recipient⟩
  | ok prepared =>
      rw [made] at ready
      obtain ⟨address, sender, recipient⟩ := ready.1 ⟨prepared, rfl⟩
      simp [address, sender, recipient]

theorem send_of_accepted (accepted : admission.refusal? transport mail = none) :
    admission.send transport mail =
      ({ transport with sent := transport.sent ++ [mail] },
        .ok ⟨"memory-" ++ toString (transport.sent.length + 1), none⟩) := by
  unfold send
  rw [accepted]
  simp

theorem send_of_refused {cause : TransportError}
    (refused : admission.refusal? transport mail = some cause) :
    admission.send transport mail = (transport, .error cause) := by
  unfold send
  rw [refused]

end Admission

end BlockMail.Mail
