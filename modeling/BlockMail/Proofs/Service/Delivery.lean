import BlockMail.Proofs.Service.Reading

/-!
# Requests and any transport

What a request hands over does not depend on the transport that it is run with. A
transport is whatever takes a mail and answers, and the memory transport is one of them.
-/

set_option autoImplicit false

namespace BlockMail

/-- What a transport comes to keep, and how it answers, when a mail is handed to it. -/
abbrev Mail.Transport (Kept : Type) :=
  Kept → Mail.OutgoingMail → Kept × Except Mail.TransportError Mail.Delivery

namespace Service

/-- Where a run ends. `mails` are those that were handed over, in order. -/
structure Ended (Kept Result : Type) where
  store : Store
  kept : Kept
  mails : List Mail.OutgoingMail
  result : Result

namespace Ended

variable {Kept Result Next : Type}

def map (ended : Ended Kept Result) (onward : Result → Next) : Ended Kept Next :=
  ⟨ended.store, ended.kept, ended.mails, onward ended.result⟩

def preceded (ended : Ended Kept Result) (earlier : List Mail.OutgoingMail) :
    Ended Kept Result :=
  { ended with mails := earlier ++ ended.mails }

end Ended

variable {Kept Result Next : Type}

/-- Runs a program on a store at which nothing misbehaves, and with any transport. -/
def Program.through (transport : Mail.Transport Kept) (now : Time.Instant) (store : Store)
    (kept : Kept) : Program Result → Ended Kept Result
  | .finish result => ⟨store, kept, [], result⟩
  | .call query next =>
      let (after, reply) := store.perform now query
      through transport now after kept (next reply)
  | .deliver mail next =>
      let (after, reply) := transport kept mail
      (through transport now store after (next reply)).preceded [mail]

/-- With the memory transport that is how requests are run. -/
theorem run_eq_through (program : Program (Except ServiceError Result)) (store : Store)
    (memory : Mail.MemoryTransport) (now : Time.Instant) :
    let ended := program.through Mail.MemoryTransport.send now store memory
    (World.ofStore store memory).run now program =
      (.ofStore ended.store ended.kept, ended.result) := by
  induction program generalizing store memory with
  | finish result => rfl
  | call query next ih => exact ih _ _ memory
  | deliver mail next ih => exact ih _ store _

section Runs

variable (transport : Mail.Transport Kept) (now : Time.Instant) (store : Store) (kept : Kept)

theorem through_bind (request : Request Result) (onward : Result → Request Next) :
    let first := request.run.through transport now store kept
    (request >>= onward).run.through transport now store kept =
      match first.result with
      | .ok result =>
          ((onward result).run.through transport now first.store first.kept).preceded
            first.mails
      | .error cause => first.map fun _ => .error cause := by
  intro first
  rw [Request.run_bind]
  subst first
  generalize request.run = program
  induction program generalizing store kept with
  | finish outcome => cases outcome <;> rfl
  | call query next ih => exact ih _ _ _
  | deliver mail next ih =>
      simp only [Program.andThen, Program.through]
      rw [ih (transport kept mail).2 store (transport kept mail).1]
      simp only [Ended.preceded]
      cases (Program.through transport now store (transport kept mail).1
        (next (transport kept mail).2)).result <;> rfl

theorem through_fetch (id : DocumentId) (requester : UserId) :
    (fetch id requester).run.through transport now store kept =
      ⟨store, kept, [], fetched store id requester⟩ := by
  have found : (stored id).run.through transport now store kept =
      ⟨store, kept, [], lookedUp id (store.get? id)⟩ := by
    unfold stored
    rw [through_bind]
    simp only [Request.ask, ExceptT.run, ExceptT.mk, Program.through, Store.perform]
    cases store.get? id with
    | error failure => rfl
    | ok found => cases found <;> rfl
  unfold fetch visible fetched
  rw [through_bind, through_bind, found]
  cases lookedUp id (store.get? id) with
  | error cause => rfl
  | ok record =>
      by_cases seen : record.isVisibleTo requester = true
      · simp only [seen, if_true, Request.run_pure, Program.through, Ended.preceded]
        cases Document.ofRecord record <;> rfl
      · simp only [seen]
        rfl

theorem through_preview (service : Service) (id : DocumentId) (requester : UserId)
    (context : Option Context) :
    (service.preview id requester context).run.through transport now store kept =
      ⟨store, kept, [], (fetched store id requester).map fun document =>
        Html.page document.blocks (service.merged context) .default⟩ := by
  unfold preview
  rw [through_bind, through_fetch]
  cases fetched store id requester <;> rfl

theorem through_hand (mail : Mail.OutgoingMail) :
    (Request.hand mail).run.through transport now store kept =
      ⟨store, (transport kept mail).1, [mail],
        (transport kept mail).2.mapError .transport⟩ := by
  simp only [Request.hand, ExceptT.run, ExceptT.mk, Program.through]
  cases (transport kept mail).2 <;> rfl

/-- The mail of a document that the requester may read is handed over if the recipient is
an address. -/
theorem through_send (service : Service) {id : DocumentId} {requester : UserId}
    {document : Document} (visible : fetched store id requester = .ok document)
    (recipient : String) (context : Option Context) :
    let mail := service.mailOf document recipient context
    (service.send id requester recipient context).run.through transport now store kept =
      if Mail.isAddress recipient then
        ⟨store, (transport kept mail).1, [mail],
          (transport kept mail).2.mapError .transport⟩
      else ⟨store, kept, [], .error (.invalidRecipient (.invalidAddress recipient))⟩ := by
  intro mail
  unfold send Mail.checkAddress
  rw [through_bind]
  by_cases address : Mail.isAddress recipient = true
  · simp only [address, if_true, Request.ofExcept, Request.run_pure, Program.through]
    rw [through_bind, through_fetch, visible]
    dsimp only
    rw [through_hand]
    rfl
  · simp only [address]
    rfl

end Runs

end Service

end BlockMail
