import BlockMail.Proofs.Decode.Complete
import BlockMail.Proofs.Http.Account
import BlockMail.Proofs.Json.Text
import BlockMail.Proofs.Service.Delivery
import BlockMail.Proofs.Template.Written

/-!
# Previews and the mail they stand for

A preview of a template shows the page that sending it hands over, whenever the values
that come with both requests decode. Values that do not decode make sending fail, but a
preview passes over them and shows the default values.
-/

set_option autoImplicit false

namespace BlockMail.Http

open Decode
open Service (Ended)

/-! ## Bodies -/

/-- A body of JSON that has a value for each of the names. -/
structure Request.Carries (request : Request) (names : List String)
    (values : List Json.Draft) : Prop where
  typed : request.contentType.any isJsonType = true
  small : request.body.utf8ByteSize ≤ largestBody
  written : Writes names values (Json.Draft.read request.body).1

section Bodies

variable {Value : Type} {request : Request} {names : List String} {values : List Json.Draft}
  {decode : Reading → Except DecodeError Value}

theorem readBody_of_ok (carries : request.Carries names values) {value : Value}
    (decoded : decode (.ofText request.body) = .ok value) :
    readBody decode request = .ok value := by
  unfold readBody fromText
  simp [carries.typed, Nat.not_lt.2 carries.small, decoded]

/-- A body that does not decode is a fault of whoever sends it. -/
theorem readBody_of_error (carries : request.Carries names values) {cause : DecodeError}
    (refused : decode (.ofText request.body) = .error cause) :
    ∃ fault, readBody decode request = .error fault ∧
      (fault.response.status = 400 ∨ fault.response.status = 422) := by
  unfold readBody fromText
  simp only [carries.typed, Nat.not_lt.2 carries.small, refused]
  cases cause with
  | malformed => exact ⟨.malformed, rfl, .inl rfl⟩
  | _ => exact ⟨.wrongShape _, rfl, .inr rfl⟩

end Bodies

/-- The values in a member of a body. -/
def contextOf (given : Json.Draft) : Except DecodeError (Option Context) :=
  nullable Context.decode (Reading.inside Json.nestingLimit given)

theorem contextOf_eq_ok {given : Json.Draft} {values : Option Context} :
    contextOf given = .ok values ↔ Context.Given given values :=
  Context.nullable_eq_ok (by decide)

/-- The values that come with a request for a preview. -/
theorem decodePreview_eq {request : Request} {given : Json.Draft}
    (carries : request.Carries ["contextData"] [given]) :
    decodePreview (Reading.ofText request.body) = contextOf given := by
  refine Fields.decode_eq_of_writes ⟨rfl, by decide⟩ rfl (by decide) carries.written _ ?_ ?_
  · intro index value cause found refused
    rcases index with _ | index
    · cases found
      exact error_of_map refused
    · cases found
  · intro missing
    change (contextOf given >>= fun context => pure context) = _
    exact bind_pure _

/-- The values that come with a request to send, and the rest of it. -/
theorem sendRequest_eq {request : Request} {id recipient : String} {given : Json.Draft}
    (carries : request.Carries ["templateId", "recipientEmail", "contextData"]
      [.string (some id), .string (some recipient), given]) :
    SendRequest.decode (Reading.ofText request.body) =
      (contextOf given).map (SendRequest.mk ⟨id⟩ recipient) := by
  refine Fields.decode_eq_of_writes ⟨rfl, by decide⟩ rfl (by decide) carries.written _ ?_ ?_
  · -- The identifier and the recipient are strings, so only the values can be refused.
    intro index value cause found refused
    rcases index with _ | _ | _ | index
    · cases found
      cases refused
    · cases found
      cases refused
    · cases found
      have failed : contextOf given = .error cause := error_of_map refused
      rw [failed]
      rfl
    · cases found
  · intro missing
    change (contextOf given >>= fun context =>
      pure (SendRequest.mk ⟨id⟩ recipient context)) = _
    cases contextOf given <;> rfl

/-! ## The interface and any transport -/

def Handling.through {Kept : Type} (transport : Mail.Transport Kept) (now : Time.Instant)
    (store : Store) (kept : Kept) : Handling → Ended Kept Response
  | .answered response => ⟨store, kept, [], response⟩
  | .asked request respond =>
      (request.run.through transport now store kept).map fun outcome =>
        match outcome with
        | .ok result => respond result
        | .error cause => refused cause

def respondThrough {Kept : Type} (transport : Mail.Transport Kept) (service : Service)
    (store : Store) (kept : Kept) (request : Request) (fresh : DocumentId)
    (now : Time.Instant) : Ended Kept Response :=
  ((handling service request fresh now).through transport now store kept).map fun response =>
    if request.method = "HEAD" then response.withoutBody else response

/-- With the memory transport that is how the interface responds. -/
theorem respond_eq_through (service : Service) (store : Store)
    (memory : Mail.MemoryTransport) (request : Request) (fresh : DocumentId)
    (now : Time.Instant) :
    let ended := respondThrough Mail.MemoryTransport.send service store memory request fresh now
    respond service (.ofStore store memory) request fresh now =
      (.ofStore ended.store ended.kept, ended.result) := by
  intro ended
  subst ended
  unfold respond respondThrough
  cases handling service request fresh now with
  | answered response => rfl
  | asked asked respond =>
      simp only [carryOut, Handling.through, Ended.map, Service.run_eq_through]
      cases (asked.run.through Mail.MemoryTransport.send now store memory).result <;> rfl

/-- Previews and sending are asked for by posting. -/
theorem respondThrough_eq {Kept : Type} (transport : Mail.Transport Kept) (service : Service)
    (store : Store) (kept : Kept) {request : Request} {action : Action}
    (asked : request.action? = some action)
    (posted : action = .send ∨ ∃ part, action = .preview part)
    (fresh : DocumentId) (now : Time.Instant) :
    respondThrough transport service store kept request fresh now =
      (handlingOf service request action fresh now).through transport now store kept := by
  have notHead : request.method ≠ "HEAD" := by
    intro head
    have routed := asked
    unfold Request.action? at routed
    split at routed
    · cases routed
    · obtain ⟨route, _, admitted⟩ := Option.bind_eq_some_iff.1 routed
      rcases action_of_get (.inr head) admitted with rfl | rfl | rfl | ⟨_, rfl⟩ <;>
        simp at posted
  unfold respondThrough
  rw [handling_eq service asked]
  simp only [if_neg notHead]
  rfl

/-! ## Previews and sending -/

/-- A request for a preview of a document, and one of the same user to send it, with the
same values. -/
structure Paired (preview order : Request) (id : DocumentId) (recipient : String)
    (given : Json.Draft) : Prop where
  previews : ∃ part, preview.action? = some (.preview part) ∧ identifier? part = some id.text
  sends : order.action? = some .send
  requester : preview.requester = order.requester
  shown : preview.Carries ["contextData"] [given]
  ordered : order.Carries ["templateId", "recipientEmail", "contextData"]
    [.string (some id.text), .string (some recipient), given]

section Pairs

variable {Kept : Type} (transport : Mail.Transport Kept) (service : Service) {store : Store}
  (kept : Kept) {preview order : Request} {id : DocumentId} {recipient : String}
  {given : Json.Draft} {document : Document} (paired : Paired preview order id recipient given)
  (visible : Service.fetched store id order.requester = .ok document)
  (fresh : DocumentId) (now : Time.Instant)

include paired visible

/-- A preview shows the values that decode, and the default ones when none do. -/
theorem respondThrough_preview :
    respondThrough transport service store kept preview fresh now =
      ⟨store, kept, [], .page (Html.page document.blocks
        (service.merged (contextOf given).toOption.join) .default)⟩ := by
  obtain ⟨part, asked, named⟩ := paired.previews
  -- A body that does not decode counts as none, like one without values.
  have context : (readBody decodePreview preview).toOption.join =
      (contextOf given).toOption.join := by
    have decoded := decodePreview_eq paired.shown
    cases read : contextOf given with
    | ok values =>
        rw [readBody_of_ok paired.shown (decoded.trans read)]
        rfl
    | error cause =>
        obtain ⟨fault, refused, _⟩ := readBody_of_error paired.shown (decoded.trans read)
        rw [refused]
        rfl
  rw [respondThrough_eq transport service store kept asked (.inr ⟨part, rfl⟩)]
  simp only [handlingOf, withIdentifier, named, context, Handling.through,
    Service.through_preview, paired.requester, visible]
  rfl

theorem respondThrough_send {values : Option Context} (read : contextOf given = .ok values) :
    let mail := service.mailOf document recipient values
    let sent := respondThrough transport service store kept order fresh now
    sent.store = store ∧ sent.mails = (if Mail.isAddress recipient then [mail] else []) ∧
      (Mail.isAddress recipient = true → ∀ delivery, (transport kept mail).2 = .ok delivery →
        sent.result.status = 200) := by
  intro mail sent
  have decoded : SendRequest.decode (Reading.ofText order.body) =
      .ok ⟨id, recipient, values⟩ := by
    rw [sendRequest_eq paired.ordered, read]
    rfl
  have ended : sent = _ := respondThrough_eq transport service store kept paired.sends
    (.inl rfl) fresh now
  simp only [handlingOf, readBody_of_ok paired.ordered decoded, withBody, Handling.through,
    Service.through_send _ _ _ _ _ visible] at ended
  rw [ended]
  by_cases address : Mail.isAddress recipient = true
  · simp only [address, if_true]
    refine ⟨rfl, rfl, ?_⟩
    intro _ delivery accepted
    subst mail
    simp only [Ended.map, accepted]
    rfl
  · simp only [address]
    refine ⟨rfl, rfl, ?_⟩
    rintro ⟨⟩

omit visible in
theorem respondThrough_send_refused {cause : DecodeError}
    (unread : contextOf given = .error cause) :
    ∃ response, (response.status = 400 ∨ response.status = 422) ∧
      respondThrough transport service store kept order fresh now =
        ⟨store, kept, [], response⟩ := by
  have decoded : SendRequest.decode (Reading.ofText order.body) = .error cause := by
    rw [sendRequest_eq paired.ordered, unread]
    rfl
  obtain ⟨fault, refused, status⟩ := readBody_of_error paired.ordered decoded
  refine ⟨fault.response, status, ?_⟩
  rw [respondThrough_eq transport service store kept paired.sends (.inl rfl)]
  simp only [handlingOf, refused, withBody, Handling.through]

end Pairs

/-- For values that decode, a preview shows the page that sending with the same values hands
to any transport. Values that do not decode make sending fail, with nothing handed over, but
the preview then shows the page of the default values. -/
theorem preview_shows_what_is_sent {Kept : Type} (transport : Mail.Transport Kept)
    (service : Service) {store : Store} (kept : Kept) {preview order : Request}
    {id : DocumentId} {recipient : String} {given : Json.Draft} {document : Document}
    (paired : Paired preview order id recipient given)
    (visible : Service.fetched store id order.requester = .ok document)
    (fresh : DocumentId) (now later : Time.Instant) :
    let shown := respondThrough transport service store kept preview fresh now
    let sent := respondThrough transport service store kept order fresh later
    (∀ values, Context.Given given values →
      let mail := service.mailOf document recipient values
      shown = ⟨store, kept, [], .page mail.html⟩ ∧ sent.store = store ∧
      sent.mails = (if Mail.isAddress recipient then [mail] else []) ∧
      (Mail.isAddress recipient = true → ∀ delivery, (transport kept mail).2 = .ok delivery →
        sent.result.status = 200)) ∧
    ((∀ values, ¬Context.Given given values) →
      shown = ⟨store, kept, [], .page (service.mailOf document recipient none).html⟩ ∧
      ∃ response, (response.status = 400 ∨ response.status = 422) ∧
        sent = ⟨store, kept, [], response⟩) := by
  intro shown sent
  have page : shown = _ := respondThrough_preview transport service kept paired visible fresh now
  constructor
  · intro values decodes mail
    have read := contextOf_eq_ok.2 decodes
    refine ⟨?_, respondThrough_send transport service kept paired visible fresh later read⟩
    rw [page, read]
    rfl
  · intro undecodable
    cases read : contextOf given with
    | ok values => exact absurd (contextOf_eq_ok.1 read) (undecodable values)
    | error cause =>
        refine ⟨?_, respondThrough_send_refused transport service kept paired fresh later read⟩
        rw [page, read]
        rfl

/-- Ada has a template of hers shown, and sent to Sam. -/
theorem preview_shows_what_is_sent_to_sam :
    let noon : Time.Instant := ⟨⟨2024, 5, 1, by decide⟩, 720, 0, 0, by decide⟩
    let service : Service := ⟨"post@example.com", .empty⟩
    let ada := some "ada".toUTF8.toList
    let creation : Request :=
      ⟨"POST", "/api/templates", ada, some "application/json", "\x7b\x7d"⟩
    let store :=
      (respond service (.ofStore (.empty .memory) .empty) creation ⟨"d1"⟩ noon).1.store
    let values : Json := .object [("name", .string "Sam")]
    let preview : Request :=
      ⟨"POST", "/api/templates/d1/preview", ada, some "application/json",
        (Json.object [("contextData", values)]).compact⟩
    let order : Request :=
      ⟨"POST", "/api/email/send", ada, some "application/json",
        (Json.object [("contextData", values), ("templateId", .string "d1"),
          ("recipientEmail", .string "sam@example.com")]).compact⟩
    let shown := respond service (.ofStore store .empty) preview ⟨"d2"⟩ noon
    let sent := respondThrough Mail.MemoryTransport.send service store .empty order ⟨"d2"⟩ noon
    ∃ mail, shown.2 = .page mail.html ∧ sent.mails = [mail] := by
  intro noon service ada creation store values preview order shown sent
  have found : (Service.fetched store ⟨"d1"⟩ order.requester).toOption.isSome = true := by
    decide +kernel
  obtain ⟨document, visible⟩ : ∃ document,
      Service.fetched store ⟨"d1"⟩ order.requester = .ok document := by
    cases read : Service.fetched store ⟨"d1"⟩ order.requester with
    | ok document => exact ⟨document, rfl⟩
    | error cause =>
        rw [read] at found
        cases found
  let given := scalarsDraft [("name", .text "Sam")]
  have previewBody : (Json.Draft.read preview.body).1 =
      .object [(some "contextData", given)] :=
    congrArg Prod.fst (Json.read_compact _)
  have orderBody : (Json.Draft.read order.body).1 =
      .object [(some "contextData", given), (some "templateId", .string (some "d1")),
        (some "recipientEmail", .string (some "sam@example.com"))] :=
    congrArg Prod.fst (Json.read_compact _)
  have paired : Paired preview order ⟨"d1"⟩ "sam@example.com" given := by
    refine ⟨⟨"d1".toList, ?_, ?_⟩, ?_, rfl, ⟨?_, ?_, ?_⟩, ⟨?_, ?_, ?_⟩⟩
    · decide +kernel
    · decide +kernel
    · decide +kernel
    · decide +kernel
    · decide +kernel
    · rw [previewBody]
      exact @Writes.named _ _ [("contextData", given)] (by decide) (by simp)
    · decide +kernel
    · decide +kernel
    · rw [orderBody]
      exact @Writes.named _ _ [("contextData", given), ("templateId", .string (some "d1")),
        ("recipientEmail", .string (some "sam@example.com"))] (by decide) (by simp)
  obtain ⟨ended, _, mails, _⟩ := (preview_shows_what_is_sent Mail.MemoryTransport.send service
    .empty paired visible ⟨"d2"⟩ noon noon).1 _ (.values _)
  have page : shown.2 = _ := congrArg Prod.snd
    (respond_eq_through service store .empty preview ⟨"d2"⟩ noon)
  refine ⟨_, page.trans (congrArg Ended.result ended), mails.trans (if_pos ?_)⟩
  decide +kernel

/-- A preview passes over values that make sending fail. -/
theorem preview_passes_over_unreadable_values :
    let noon : Time.Instant := ⟨⟨2024, 5, 1, by decide⟩, 720, 0, 0, by decide⟩
    let service : Service := ⟨"post@example.com", .empty⟩
    let ada := some "ada".toUTF8.toList
    let creation : Request :=
      ⟨"POST", "/api/templates", ada, some "application/json", "\x7b\x7d"⟩
    let world :=
      (respond service (.ofStore (.empty .memory) .empty) creation ⟨"d1"⟩ noon).1
    let preview : Request :=
      ⟨"POST", "/api/templates/d1/preview", ada, some "application/json",
        "\x7b\"contextData\":\x7b\"name\":null\x7d\x7d"⟩
    let order : Request :=
      ⟨"POST", "/api/email/send", ada, some "application/json",
        "\x7b\"contextData\":\x7b\"name\":null\x7d,\"templateId\":\"d1\"," ++
          "\"recipientEmail\":\"sam@example.com\"\x7d"⟩
    (respond service world order ⟨"d2"⟩ noon).2.status = 422 ∧
      (respond service world preview ⟨"d2"⟩ noon).2.status = 200 := by
  decide +kernel

end BlockMail.Http
