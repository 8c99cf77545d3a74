import BlockMail.Mail.Message

/-!
# The memory transport

Keeps the mails that it accepts, in order, and numbers them. It makes the checks
of every transport, and can be told to fail after them.
-/

set_option autoImplicit false

namespace BlockMail.Mail

/-- Accepted mails, and the reason to fail with, if there is one. -/
structure MemoryTransport where
  sent : List OutgoingMail
  failure : Option String
deriving DecidableEq

namespace MemoryTransport

/-- A transport that has accepted nothing. -/
def empty : MemoryTransport := ⟨[], none⟩

/-- The transport with another reason to fail, or none. -/
def setFailure (transport : MemoryTransport) (failure : Option String) :
    MemoryTransport :=
  { transport with failure := failure }

/-- Why a mail is refused, if it is. -/
def refusal? (transport : MemoryTransport) (mail : OutgoingMail) :
    Option TransportError :=
  match mail.prepared "" with
  | .error cause => some cause
  | .ok _ => transport.failure.map .failed

/-- The transport after a mail was handed to it, and what became of the mail. -/
def send (transport : MemoryTransport) (mail : OutgoingMail) :
    MemoryTransport × Except TransportError Delivery :=
  match transport.refusal? mail with
  | some cause => (transport, .error cause)
  | none =>
      let sent := transport.sent ++ [mail]
      ({ transport with sent := sent },
        .ok ⟨"memory-" ++ toString sent.length, none⟩)

end MemoryTransport

end BlockMail.Mail
