import BlockMail.Proofs.Mail.Admission
import BlockMail.Proofs.Service.Delivery

/-!
# Mail that is sent

When a template is sent, what the memory transport comes to keep of it, and what it keeps
after many attempts, whichever texts pass for addresses and mailboxes.
-/

set_option autoImplicit false

namespace BlockMail

theorem Mail.mem_onOneLine {text : String} {char : Char} (visible : Text.isBlank char = false)
    (there : char ∈ text.toList) : char ∈ (Mail.onOneLine text).toList := by
  unfold Mail.onOneLine
  rw [String.toList_ofList, List.mem_filter, Bool.and_eq_true, bne_iff_ne, bne_iff_ne]
  refine ⟨there, ?_, ?_⟩
  · rintro rfl
    revert visible
    decide
  · rintro rfl
    revert visible
    decide

namespace Service

open Mail

/-- What a user asks for who sends a template. -/
structure Errand where
  id : DocumentId
  requester : UserId
  recipient : String
  context : Option Context

variable (admission : Admission) (service : Service)

/-- The request to send a template, with any idea of an address. -/
def sendBy (errand : Errand) : Request Delivery := do
  Request.ofExcept .invalidRecipient (admission.checkAddress errand.recipient)
  let document ← fetch errand.id errand.requester
  Request.hand (service.mailOf document errand.recipient errand.context)

/-- The mail of a record with given blocks. Page and plain text are of the same blocks and
of the same values. -/
def letter (errand : Errand) (record : DocumentRecord) (blocks : List Block) : OutgoingMail :=
  { sender := service.sender
    recipient := errand.recipient
    subject := if Text.allBlank record.subject then fallbackSubject else record.subject
    html := Html.page blocks (service.merged errand.context) .default
    text := Html.plainPage blocks (service.merged errand.context) }

/-- All that has to hold for a template to be sent. -/
structure Cleared (store : Store) (transport : MemoryTransport) (errand : Errand)
    (record : DocumentRecord) (blocks : List Block) : Prop where
  address : admission.isAddress errand.recipient = true
  found : store.get? errand.id = .ok (some record)
  visible : record.isVisibleTo errand.requester = true
  decoded : Blocks.decode record.blocks = .ok blocks
  sender : (admission.mailbox? service.sender).isSome
  mailbox : (admission.mailbox? errand.recipient).isSome
  working : transport.failure = none

/-- The number that the memory transport gives the next mail. -/
def nextDelivery (transport : MemoryTransport) : Delivery :=
  ⟨"memory-" ++ toString (transport.sent.length + 1), none⟩

/-- Where an errand ends, at a store and with the memory transport. -/
def carry (now : Time.Instant) (store : Store) (transport : MemoryTransport)
    (errand : Errand) : Ended MemoryTransport (Except ServiceError Delivery) :=
  (service.sendBy admission errand).run.through admission.send now store transport

variable {admission service}

theorem exists_visible_char {record : DocumentRecord} {blocks : List Block} (errand : Errand) :
    ∃ char ∈ (onOneLine (service.letter errand record blocks).subject).toList,
      Text.isBlank char = false := by
  have visible : ∃ char ∈ (service.letter errand record blocks).subject.toList,
      Text.isBlank char = false := by
    unfold letter
    dsimp only
    split
    · exact ⟨'N', by decide, by decide⟩
    · rename_i shown
      unfold Text.allBlank at shown
      simpa using shown
  obtain ⟨char, there, shown⟩ := visible
  exact ⟨char, mem_onOneLine shown there, shown⟩

/-! ## One errand -/

section Errands

variable {store : Store} {transport : MemoryTransport} {errand : Errand}
  {record : DocumentRecord} {blocks : List Block}

theorem refusal?_letter (address : admission.isAddress errand.recipient = true) :
    admission.refusal? transport (service.letter errand record blocks) = none ↔
      (admission.mailbox? service.sender).isSome ∧
        (admission.mailbox? errand.recipient).isSome ∧ transport.failure = none := by
  rw [Admission.refusal?_eq_none]
  simp [letter, address]

theorem mailOf_of_record {document : Document} (decoded : Blocks.decode record.blocks = .ok blocks)
    (made : Document.ofRecord record = .ok document) (errand : Errand) :
    service.mailOf document errand.recipient errand.context =
      service.letter errand record blocks := by
  unfold Document.ofRecord at made
  rw [decoded] at made
  cases made
  rfl

theorem fetched_eq_ok_of_record {document : Document} :
    fetched store errand.id errand.requester = .ok document ↔
      ∃ record blocks, store.get? errand.id = .ok (some record) ∧
        record.isVisibleTo errand.requester = true ∧
        Blocks.decode record.blocks = .ok blocks ∧ Document.ofRecord record = .ok document := by
  rw [fetched_eq_ok]
  constructor
  · rintro ⟨entry, record, found, read, visible, made⟩
    obtain ⟨blocks, decoded, _⟩ := exists_of_bind made
    exact ⟨record, blocks, Store.get?_eq_some.2 ⟨entry, found, read⟩, visible, decoded, made⟩
  · rintro ⟨record, _, given, visible, _, made⟩
    obtain ⟨entry, found, read⟩ := Store.get?_eq_some.1 given
    exact ⟨entry, record, found, read, visible, made⟩

theorem carry_of_foreign (now : Time.Instant) (store : Store) (transport : MemoryTransport)
    (foreign : admission.isAddress errand.recipient = false) :
    service.carry admission now store transport errand =
      ⟨store, transport, [], .error (.invalidRecipient (.invalidAddress errand.recipient))⟩ := by
  unfold carry sendBy Admission.checkAddress
  rw [through_bind, foreign]
  rfl

theorem carry_of_address (now : Time.Instant) (store : Store) (transport : MemoryTransport)
    (address : admission.isAddress errand.recipient = true) :
    service.carry admission now store transport errand =
      match fetched store errand.id errand.requester with
      | .ok document =>
          let mail := service.mailOf document errand.recipient errand.context
          ⟨store, (admission.send transport mail).1, [mail],
            (admission.send transport mail).2.mapError .transport⟩
      | .error cause => ⟨store, transport, [], .error cause⟩ := by
  unfold carry sendBy Admission.checkAddress
  rw [through_bind, address]
  simp only [if_true, Request.ofExcept, Request.run_pure, Program.through]
  rw [through_bind, through_fetch]
  cases fetched store errand.id errand.requester with
  | error cause => rfl
  | ok document =>
      dsimp only
      rw [through_hand]
      rfl

/-- A template that the store does not read back is not sent. -/
theorem carry_of_damaged (now : Time.Instant) (store : Store) (transport : MemoryTransport)
    (address : admission.isAddress errand.recipient = true) {failure : Store.Failure}
    (damaged : store.damage? errand.id = some failure) :
    service.carry admission now store transport errand =
      ⟨store, transport, [], .error (.store failure)⟩ := by
  rw [carry_of_address now store transport address,
    fetched_of_damaged damaged errand.requester]

theorem carry_of_cleared (now : Time.Instant)
    (cleared : service.Cleared admission store transport errand record blocks) :
    service.carry admission now store transport errand =
      ⟨store, { transport with sent := transport.sent ++ [service.letter errand record blocks] },
        [service.letter errand record blocks], .ok (nextDelivery transport)⟩ := by
  obtain ⟨document, made⟩ : ∃ document, Document.ofRecord record = .ok document := by
    unfold Document.ofRecord
    rw [cleared.decoded]
    exact ⟨_, rfl⟩
  have given : fetched store errand.id errand.requester = .ok document :=
    fetched_eq_ok_of_record.2
      ⟨record, blocks, cleared.found, cleared.visible, cleared.decoded, made⟩
  have accepted : admission.refusal? transport (service.letter errand record blocks) = none :=
    (refusal?_letter cleared.address).2 ⟨cleared.sender, cleared.mailbox, cleared.working⟩
  rw [carry_of_address now store transport cleared.address, given]
  dsimp only
  rw [mailOf_of_record cleared.decoded made, Admission.send_of_accepted accepted]
  rfl

/-- An errand that is not cleared is refused and leaves the transport alone. -/
theorem carry_of_refused (now : Time.Instant)
    (refused : ∀ record blocks,
      ¬service.Cleared admission store transport errand record blocks) :
    ∃ mails cause, service.carry admission now store transport errand =
      ⟨store, transport, mails, .error cause⟩ := by
  cases address : admission.isAddress errand.recipient with
  | false => exact ⟨_, _, carry_of_foreign now store transport address⟩
  | true =>
      rw [carry_of_address now store transport address]
      cases given : fetched store errand.id errand.requester with
      | error cause => exact ⟨[], cause, rfl⟩
      | ok document =>
          obtain ⟨record, blocks, found, visible, decoded, made⟩ :=
            fetched_eq_ok_of_record.1 given
          dsimp only
          rw [mailOf_of_record decoded made]
          cases accepted : admission.refusal? transport (service.letter errand record blocks) with
          | none =>
              obtain ⟨sender, mailbox, working⟩ := (refusal?_letter address).1 accepted
              exact absurd ⟨address, found, visible, decoded, sender, mailbox, working⟩
                (refused record blocks)
          | some cause =>
              rw [Admission.send_of_refused accepted]
              exact ⟨_, _, rfl⟩

end Errands

/-! ## Many errands -/

/-- An errand at some time, with the store as it then is, and the transport made to fail or
not. -/
structure Attempt where
  now : Time.Instant
  store : Store
  failure : Option String
  errand : Errand

variable (admission service) in
/-- Errands one after the other: the transport in the end, and where each of them ended. -/
def carryAll (transport : MemoryTransport) :
    List Attempt → MemoryTransport × List (Ended MemoryTransport (Except ServiceError Delivery))
  | [] => (transport, [])
  | attempt :: rest =>
      let ended := service.carry admission attempt.now attempt.store
        (transport.setFailure attempt.failure) attempt.errand
      let others := carryAll ended.kept rest
      (others.1, ended :: others.2)

/-- The mails of an errand that succeeded. -/
def Ended.delivered (ended : Ended MemoryTransport (Except ServiceError Delivery)) :
    List OutgoingMail :=
  match ended.result with
  | .ok _ => ended.mails
  | .error _ => []

def Ended.messageId? (ended : Ended MemoryTransport (Except ServiceError Delivery)) :
    Option String :=
  match ended.result with
  | .ok delivery => some delivery.messageId
  | .error _ => none

/-- The identifiers that a memory transport gives to some mails after so many others. -/
def messageIds (sent count : Nat) : List String :=
  (List.range' (sent + 1) count).map fun number => "memory-" ++ toString number

theorem nodup_messageIds (sent count : Nat) : (messageIds sent count).Nodup := by
  unfold messageIds
  apply List.Nodup.map_on _ List.nodup_range'
  intro one _ two _ same
  rw [String.append_right_inj, Nat.toString_eq_ofList_toDigits,
    Nat.toString_eq_ofList_toDigits] at same
  have digits : Nat.toDigits 10 one = Nat.toDigits 10 two := String.ofList_injective same
  rw [← @Nat.ofDigitChars_ten_toDigits one, digits, Nat.ofDigitChars_ten_toDigits]

theorem messageIds_add (sent first second : Nat) :
    messageIds sent (first + second) = messageIds sent first ++ messageIds (sent + first) second := by
  unfold messageIds
  rw [← List.map_append, Nat.add_right_comm, List.range'_append_1]

variable (admission service) in
/-- What one errand adds to the transport is what it delivered, under the next number. -/
theorem carry_log (now : Time.Instant) (store : Store) (transport : MemoryTransport)
    (errand : Errand) :
    let ended := service.carry admission now store transport errand
    ended.kept.sent = transport.sent ++ ended.delivered ∧
      ended.messageId?.toList = messageIds transport.sent.length ended.delivered.length := by
  by_cases cleared : ∃ record blocks,
      service.Cleared admission store transport errand record blocks
  · obtain ⟨record, blocks, cleared⟩ := cleared
    rw [carry_of_cleared now cleared]
    exact ⟨rfl, rfl⟩
  · have refused (record : DocumentRecord) (blocks : List Block) :
        ¬service.Cleared admission store transport errand record blocks :=
      fun holds => cleared ⟨record, blocks, holds⟩
    obtain ⟨mails, cause, ended⟩ := carry_of_refused now refused
    rw [ended]
    exact ⟨(List.append_nil _).symm, rfl⟩

variable (admission service) in
theorem carryAll_log (transport : MemoryTransport) (attempts : List Attempt) :
    let run := service.carryAll admission transport attempts
    let delivered := run.2.flatMap Ended.delivered
    run.1.sent = transport.sent ++ delivered ∧
      run.2.filterMap Ended.messageId? = messageIds transport.sent.length delivered.length := by
  induction attempts generalizing transport with
  | nil => simp [carryAll, messageIds]
  | cons attempt rest ih =>
      have once := carry_log admission service attempt.now attempt.store
        (transport.setFailure attempt.failure) attempt.errand
      revert once
      simp only [carryAll]
      generalize service.carry admission attempt.now attempt.store
        (transport.setFailure attempt.failure) attempt.errand = ended
      rintro ⟨sent, number⟩
      obtain ⟨later, numbers⟩ := ih ended.kept
      have kept : (transport.setFailure attempt.failure).sent = transport.sent := rfl
      rw [kept] at sent number
      rw [sent] at later
      rw [sent, List.length_append] at numbers
      constructor
      · rw [later, List.flatMap_cons, List.append_assoc]
      · rw [List.flatMap_cons, List.length_append, messageIds_add, ← number, ← numbers,
          List.filterMap_cons]
        cases ended.messageId? <;> rfl

/-! ## Everything that is sent -/

/-- What sending comes to. -/
structure Sends (admission : Admission) (service : Service) : Prop where
  stored : ∀ now store transport errand,
    (service.carry admission now store transport errand).store = store
  /-- An errand succeeds exactly when it is cleared. -/
  succeeds : ∀ now store transport errand,
    (∃ delivery, (service.carry admission now store transport errand).result = .ok delivery) ↔
      ∃ record blocks, service.Cleared admission store transport errand record blocks
  /-- Then one mail is added, to the recipient that was given, and of the blocks that are
  stored. -/
  added : ∀ now store transport errand record blocks,
    service.Cleared admission store transport errand record blocks →
    let letter := service.letter errand record blocks
    let ended := service.carry admission now store transport errand
    ended.kept = { transport with sent := transport.sent ++ [letter] } ∧
      ended.mails = [letter] ∧ ended.result = .ok (nextDelivery transport)
  /-- Its subject is not blank, not even without line breaks. -/
  titled : ∀ errand record blocks,
    ∃ char ∈ (onOneLine (service.letter errand record blocks).subject).toList,
      Text.isBlank char = false
  refused : ∀ now store transport errand cause,
    (service.carry admission now store transport errand).result = .error cause →
    (service.carry admission now store transport errand).kept = transport
  /-- That a template is not read back is all that is said of it. -/
  damaged : ∀ now store transport errand failure,
    admission.isAddress errand.recipient = true → store.damage? errand.id = some failure →
    service.carry admission now store transport errand =
      ⟨store, transport, [], .error (.store failure)⟩
  /-- The transport keeps the mails of the errands that succeeded, in order, and numbers
  them without gaps. -/
  numbered : ∀ transport attempts,
    let run := service.carryAll admission transport attempts
    let delivered := run.2.flatMap Ended.delivered
    run.1.sent = transport.sent ++ delivered ∧
      run.2.filterMap Ended.messageId? = messageIds transport.sent.length delivered.length ∧
      (run.2.filterMap Ended.messageId?).Nodup

theorem sends_of (admission : Admission) (service : Service) : Sends admission service := by
  have ends (now : Time.Instant) (store : Store) (transport : MemoryTransport)
      (errand : Errand) :
      (∃ record blocks, service.Cleared admission store transport errand record blocks) ∨
        ∃ mails cause, service.carry admission now store transport errand =
          ⟨store, transport, mails, .error cause⟩ := by
    by_cases cleared : ∃ record blocks,
        service.Cleared admission store transport errand record blocks
    · exact .inl cleared
    · exact .inr (carry_of_refused now fun record blocks holds => cleared ⟨record, blocks, holds⟩)
  constructor
  case stored =>
    intro now store transport errand
    rcases ends now store transport errand with ⟨record, blocks, cleared⟩ | ⟨mails, cause, ended⟩
    · rw [carry_of_cleared now cleared]
    · rw [ended]
  case succeeds =>
    intro now store transport errand
    constructor
    · rintro ⟨delivery, succeeded⟩
      rcases ends now store transport errand with cleared | ⟨mails, cause, ended⟩
      · exact cleared
      · rw [ended] at succeeded
        cases succeeded
    · rintro ⟨record, blocks, cleared⟩
      rw [carry_of_cleared now cleared]
      exact ⟨_, rfl⟩
  case added =>
    intro now store transport errand record blocks cleared
    rw [carry_of_cleared now cleared]
    exact ⟨rfl, rfl, rfl⟩
  case titled =>
    intro errand record blocks
    exact exists_visible_char errand
  case refused =>
    intro now store transport errand cause failed
    rcases ends now store transport errand with ⟨record, blocks, cleared⟩ | ⟨mails, cause, ended⟩
    · rw [carry_of_cleared now cleared] at failed
      cases failed
    · rw [ended]
  case damaged =>
    intro now store transport errand failure address damaged
    exact carry_of_damaged now store transport address damaged
  case numbered =>
    intro transport attempts
    obtain ⟨sent, numbers⟩ := carryAll_log admission service transport attempts
    refine ⟨sent, numbers, ?_⟩
    rw [numbers]
    exact nodup_messageIds _ _

/-- Sending a template adds its mail to the transport or fails and adds nothing, for any
idea of an address; with that of the mail library it is what the service does. -/
theorem sends (service : Service) :
    (∀ admission, Sends admission service) ∧
      ∀ now store transport errand,
        let ended := service.carry .standard now store transport errand
        (World.ofStore store transport).run now
            (service.send errand.id errand.requester errand.recipient errand.context).run =
          (.ofStore ended.store ended.kept, ended.result) := by
  constructor
  · intro admission
    exact sends_of admission service
  · intro now store transport errand
    unfold carry sendBy
    rw [Admission.checkAddress_standard, Admission.send_standard]
    exact run_eq_through _ store transport now

end Service

end BlockMail
