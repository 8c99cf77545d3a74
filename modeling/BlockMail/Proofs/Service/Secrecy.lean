import BlockMail.Proofs.Service.Reading
import BlockMail.Proofs.Store.Alike

/-!
# What stays hidden from a user

Run over two stores that differ only in what other users keep private, the
requests of a user answer the same and hand over the same mails. A request is
compared with itself call by call, on answers that look alike to the user; what it
does with a record must not depend on more than the user may see of it.
-/

set_option autoImplicit false

namespace BlockMail.Service

/-- Programs with the same calls on behalf of a user, the same mails and related
results, on all answers that look alike. -/
inductive Program.Twin (user : UserId) {Left Right : Type}
    (related : Left → Right → Prop) : Program Left → Program Right → Prop where
  | finish {left : Left} {right : Right} :
      related left right → Twin user related (.finish left) (.finish right)
  | call {query : Store.Call}
      {leftNext : Except Store.Failure query.Reply → Program Left}
      {rightNext : Except Store.Failure query.Reply → Program Right} :
      query.MadeBy user →
      (∀ left right, query.AnswersAlike user left right →
        Twin user related (leftNext left) (rightNext right)) →
      Twin user related (.call query leftNext) (.call query rightNext)
  | deliver {mail : Mail.OutgoingMail}
      {leftNext : Except Mail.TransportError Mail.Delivery → Program Left}
      {rightNext : Except Mail.TransportError Mail.Delivery → Program Right} :
      (∀ reply, Twin user related (leftNext reply) (rightNext reply)) →
      Twin user related (.deliver mail leftNext) (.deliver mail rightNext)

theorem Program.Twin.andThen {user : UserId} {Left Right LeftNext RightNext : Type}
    {related : Left → Right → Prop} {relatedNext : LeftNext → RightNext → Prop}
    {left : Program Left} {right : Program Right}
    (twin : left.Twin user related right)
    {leftOnward : Left → Program LeftNext} {rightOnward : Right → Program RightNext}
    (onward : ∀ leftResult rightResult, related leftResult rightResult →
      (leftOnward leftResult).Twin user relatedNext (rightOnward rightResult)) :
    (left.andThen leftOnward).Twin user relatedNext (right.andThen rightOnward) := by
  induction twin with
  | finish here => exact onward _ _ here
  | call own _ ih => exact .call own ih
  | deliver _ ih => exact .deliver ih

/-! ## Requests -/

section Requests

variable {user : UserId} {Result Next Cause : Type}

/-- Requests that are refused alike or end with related results. -/
def Request.Twin (user : UserId) (related : Result → Result → Prop)
    (left right : Request Result) : Prop :=
  left.run.Twin user (Agree related) right.run

theorem Request.Twin.bind {related : Result → Result → Prop}
    {relatedNext : Next → Next → Prop} {left right : Request Result}
    (twin : left.Twin user related right)
    {leftOnward rightOnward : Result → Request Next}
    (onward : ∀ leftResult rightResult, related leftResult rightResult →
      (leftOnward leftResult).Twin user relatedNext (rightOnward rightResult)) :
    (left >>= leftOnward).Twin user relatedNext (right >>= rightOnward) := by
  unfold Request.Twin
  rw [run_bind, run_bind]
  refine Program.Twin.andThen twin ?_
  intro leftResult rightResult agree
  cases agree with
  | ok here => exact onward _ _ here
  | error cause => exact .finish (.error cause)

theorem Request.twin_pure {related : Result → Result → Prop} {left right : Result}
    (here : related left right) :
    (pure left : Request Result).Twin user related (pure right) :=
  .finish (.ok here)

theorem Request.Twin.answer {request : Request Result} (twin : request.Twin user Eq request)
    (answer : Result → Next) :
    (do return answer (← request) : Request Next).Twin user Eq
      (do return answer (← request)) := by
  refine twin.bind ?_
  rintro result _ rfl
  exact twin_pure rfl

theorem Request.twin_throw {related : Result → Result → Prop}
    (cause : ServiceError) :
    (throw cause : Request Result).Twin user related (throw cause) :=
  .finish (.error cause)

theorem Request.twin_ofExcept (refusal : Cause → ServiceError)
    (value : Except Cause Result) :
    (ofExcept refusal value).Twin user Eq (ofExcept refusal value) := by
  cases value with
  | ok result => exact twin_pure rfl
  | error cause => exact twin_throw _

theorem Request.twin_ask {call : Store.Call} (own : call.MadeBy user)
    {related : call.Reply → call.Reply → Prop}
    (answers : ∀ left right, call.AnswersAlike user left right →
      Agree related left right) :
    (ask call).Twin user related (ask call) := by
  refine .call own ?_
  intro left right alike
  cases answers left right alike with
  | ok here => exact .finish (.ok here)
  | error failure => exact .finish (.error _)

theorem Request.twin_get (id : DocumentId) :
    (ask (.get id)).Twin user (Option.Rel (DocumentRecord.Alike user))
      (ask (.get id)) :=
  @twin_ask user (.get id) trivial _ fun _ _ alike => alike

theorem agree_of_eq {left right : Except Cause Result} (same : left = right) :
    Agree Eq left right := by
  subst same
  cases left with
  | ok result => exact .ok rfl
  | error cause => exact .error cause

/-- A call that answers the same in both runs. -/
theorem Request.twin_ask_eq (call : Store.Call) (own : call.MadeBy user)
    (plain : ∀ left right, call.AnswersAlike user left right → left = right) :
    (ask call).Twin user Eq (ask call) :=
  twin_ask own fun left right alike => agree_of_eq (plain left right alike)

theorem Request.twin_hand (mail : Mail.OutgoingMail) :
    (hand mail).Twin user Eq (hand mail) := by
  refine .deliver ?_
  intro reply
  cases reply with
  | ok delivery => exact .finish (.ok rfl)
  | error cause => exact .finish (.error _)

end Requests

/-! ## The requests of the service -/

variable {user : UserId}

theorem stored_twin (id : DocumentId) :
    (stored id).Twin user (DocumentRecord.Alike user) (stored id) := by
  unfold stored
  refine (Request.twin_get id).bind ?_
  intro left right found
  cases found with
  | none => exact Request.twin_throw _
  | some looks => exact Request.twin_pure looks

theorem visible_twin (id : DocumentId) :
    (visible id user).Twin user Eq (visible id user) := by
  unfold visible
  refine (stored_twin id).bind ?_
  intro left right looks
  rw [Store.isVisibleTo_of_alike looks]
  split
  · rename_i shown
    rw [← Store.isVisibleTo_of_alike looks] at shown
    exact Request.twin_pure (Store.eq_of_alike_of_visible looks shown)
  · exact Request.twin_throw _

theorem fetch_twin (id : DocumentId) :
    (fetch id user).Twin user Eq (fetch id user) := by
  unfold fetch
  refine (visible_twin id).bind ?_
  rintro record _ rfl
  exact Request.twin_ofExcept _ _

theorem list_twin : (list user).Twin user Eq (list user) :=
  Request.twin_ask_eq (.list user) rfl fun _ _ same => same

theorem create_twin (input : NewDocument) (fresh : DocumentId)
    (made : Time.Instant) :
    (create user input fresh made).Twin user Eq (create user input fresh made) := by
  unfold create
  refine (Request.twin_ofExcept _ _).bind ?_
  rintro document _ rfl
  exact Request.twin_ask_eq (.insert document) trivial fun _ _ same => same

theorem save_twin (id : DocumentId) (patch : DocumentPatch) (fresh : DocumentId)
    (made : Time.Instant) :
    (save id user patch fresh made).Twin user Eq (save id user patch fresh made) := by
  unfold save
  refine (stored_twin id).bind ?_
  intro left right looks
  refine (Request.twin_ofExcept _ _).bind ?_
  rintro update _ rfl
  cases looks with
  | hidden _ owner foreign leftHidden rightHidden =>
      simp only [foreign, owner ▸ foreign, leftHidden, rightHidden, ↓reduceIte]
      exact Request.twin_throw _
  | same =>
      split
      · refine (Request.twin_ask_eq (.updateOwned id user update) rfl
          fun _ _ same => same).bind ?_
        rintro affected _ rfl
        split
        · exact Request.twin_throw _
        · exact Request.twin_pure rfl
      · split
        · exact Request.twin_throw _
        · rw [forkBlocks_eq]
          refine (Request.twin_ofExcept _ _).bind ?_
          rintro blocks _ rfl
          refine (Request.twin_ask_eq (.insert _) trivial fun _ _ same => same).bind ?_
          rintro added _ rfl
          exact Request.twin_pure rfl

theorem delete_twin (id : DocumentId) :
    (delete id user).Twin user Eq (delete id user) := by
  unfold delete
  refine (Request.twin_ask_eq (.deleteOwned id user) rfl fun _ _ same => same).bind ?_
  rintro affected _ rfl
  split
  · exact Request.twin_pure rfl
  · refine (Request.twin_get id).bind ?_
    intro left right found
    cases found with
    | none => exact Request.twin_throw _
    | some looks => exact Request.twin_throw _

theorem categories_twin : (categories user).Twin user Eq (categories user) :=
  list_twin.answer _

theorem preview_twin (service : Service) (id : DocumentId)
    (context : Option Context) :
    (service.preview id user context).Twin user Eq (service.preview id user context) :=
  (fetch_twin id).answer _

theorem send_twin (service : Service) (id : DocumentId) (recipient : String)
    (context : Option Context) :
    (service.send id user recipient context).Twin user Eq
      (service.send id user recipient context) := by
  unfold send
  refine (Request.twin_ofExcept _ _).bind ?_
  rintro _ _ _
  refine (fetch_twin id).bind ?_
  rintro document _ rfl
  exact Request.twin_hand _

theorem operation_twin (service : Service) (operation : Operation) :
    (operation.program service user).Twin user (Agree Eq)
      (operation.program service user) := by
  change (operation.request service user).Twin user Eq (operation.request service user)
  cases operation with
  | create input fresh made =>
      exact (create_twin input fresh made).answer Answer.created
  | fetch id => exact (fetch_twin id).answer Answer.fetched
  | list => exact list_twin.answer Answer.listed
  | categories => exact (categories_twin).answer Answer.categories
  | save id patch fresh made =>
      exact (save_twin id patch fresh made).answer Answer.saved
  | delete id => exact (delete_twin id).answer fun _ => Answer.deleted
  | preview id context =>
      exact (preview_twin service id context).answer Answer.previewed
  | send id recipient context =>
      exact (send_twin service id recipient context).answer Answer.sent

/-! ## Runs -/

namespace World

/-- Worlds whose stores look alike and that are equal otherwise. -/
structure Alike (user : UserId) (left right : World) : Prop where
  store : left.store.Alike user right.store
  transport : left.transport = right.transport
  faults : left.faults = right.faults

/-- The mails that a program hands over, accepted or not. -/
def handed {Result : Type} (world : World) (now : Time.Instant) :
    Program (Except ServiceError Result) → List Mail.OutgoingMail
  | .finish _ => []
  | .call query next =>
      match world.perform now query with
      | (after, .replied reply) => handed after now (next reply)
      | (_, .crashed _) => []
  | .deliver mail next =>
      let (transport, reply) := world.transport.send mail
      mail :: handed { world with transport := transport } now (next reply)

/-- What a request shows to the outside. -/
structure Observation where
  answer : Except ServiceError Answer
  mails : List Mail.OutgoingMail

/-- A user's requests one after the other, each with what the clock shows. -/
def serve (service : Service) (user : UserId) (world : World) :
    List (Operation × Time.Instant) → World × List Observation
  | [] => (world, [])
  | (operation, now) :: rest =>
      let program := operation.program service user
      let (after, answer) := world.run now program
      let (last, observations) := serve service user after rest
      (last, ⟨answer, world.handed now program⟩ :: observations)

/-- What a call comes to in worlds that look alike. -/
inductive ReactionsAlike (user : UserId) (call : Store.Call) :
    Reaction call.Reply → Reaction call.Reply → Prop where
  | replied {left right : Except Store.Failure call.Reply} :
      call.AnswersAlike user left right →
      ReactionsAlike user call (.replied left) (.replied right)
  | crashed (description : String) :
      ReactionsAlike user call (.crashed description) (.crashed description)

theorem emptyReply_alike (call : Store.Call) :
    call.AnswersAlike user (emptyReply call) (emptyReply call) := by
  cases call with
  | get => exact .ok .none
  | list | insert | updateOwned | deleteOwned => rfl

theorem perform_alike {left right : World} (alike : left.Alike user right)
    (now : Time.Instant) {call : Store.Call} (own : call.MadeBy user) :
    (left.perform now call).1.Alike user (right.perform now call).1 ∧
      ReactionsAlike user call (left.perform now call).2
        (right.perform now call).2 := by
  obtain ⟨stores, answers⟩ := Store.perform_alike alike.store own now
  have sameFaults := alike.faults
  unfold perform
  rw [← sameFaults]
  cases left.faults (kindOf call) with
  | none => exact ⟨⟨stores, alike.transport, rfl⟩, .replied answers⟩
  | some fault =>
      cases fault with
      | nothing => exact ⟨alike, .replied (emptyReply_alike call)⟩
      | failure reason =>
          refine ⟨alike, .replied ?_⟩
          cases call with
          | get => exact .error _
          | list | insert | updateOwned | deleteOwned => rfl
      | crash description => exact ⟨alike, .crashed description⟩

theorem run_alike {Result : Type} {related : Result → Result → Prop}
    {program other : Program (Except ServiceError Result)}
    (twin : program.Twin user (Agree related) other) {left right : World}
    (alike : left.Alike user right) (now : Time.Instant) :
    (left.run now program).1.Alike user (right.run now other).1 ∧
      Agree related (left.run now program).2 (right.run now other).2 ∧
      left.handed now program = right.handed now other := by
  induction twin generalizing left right with
  | finish agree => exact ⟨alike, agree, rfl⟩
  | call own _ ih =>
      obtain ⟨after, reactions⟩ := perform_alike alike now own
      simp only [run, handed]
      revert after reactions
      generalize left.perform now _ = leftNext, right.perform now _ = rightNext
      obtain ⟨leftAfter, leftReaction⟩ := leftNext
      obtain ⟨rightAfter, rightReaction⟩ := rightNext
      intro after reactions
      cases reactions with
      | replied answers => exact ih _ _ answers after
      | crashed description => exact ⟨after, .error _, rfl⟩
  | @deliver mail _ _ _ ih =>
      have next : { left with transport := (left.transport.send mail).1 }.Alike user
          { right with transport := (right.transport.send mail).1 } :=
        ⟨alike.store, by rw [alike.transport], alike.faults⟩
      simp only [run, handed]
      obtain ⟨after, agree, mails⟩ := ih (left.transport.send mail).2 next
      rw [← alike.transport] at after agree mails ⊢
      exact ⟨after, agree, by rw [mails]⟩

theorem eq_of_agree {Cause Result : Type} {left right : Except Cause Result}
    (agree : Agree Eq left right) : left = right := by
  cases agree with
  | ok same => rw [same]
  | error cause => rfl

/-- Whatever a user asks for, in worlds that look alike to the user the requests
answer the same and hand over the same mails, and the worlds still look alike. -/
theorem serve_alike (service : Service) (user : UserId) (left right : World)
    (alike : left.Alike user right) (requests : List (Operation × Time.Instant)) :
    (left.serve service user requests).2 = (right.serve service user requests).2 ∧
      (left.serve service user requests).1.Alike user
        (right.serve service user requests).1 := by
  induction requests generalizing left right with
  | nil => exact ⟨rfl, alike⟩
  | cons request rest ih =>
      obtain ⟨operation, now⟩ := request
      obtain ⟨after, agree, mails⟩ :=
        run_alike (operation_twin service operation) alike now
      obtain ⟨others, last⟩ := ih _ _ after
      simp only [serve]
      exact ⟨by rw [eq_of_agree agree, mails, others], last⟩

/-- A private template with a given text. -/
def privateTemplate (made : Time.Instant) (text : String) : Document :=
  ⟨⟨"t1"⟩, ⟨"ada"⟩, text, text, text, some text, .ownerOnly, none, [], made⟩

/-- The world of a table that holds one document. -/
def tableOf (document : Document) : World :=
  .ofStore (.table ⟨[.ofDocument document], by simp⟩) .empty

theorem entryAt?_tableOf (document : Document) :
    (tableOf document).store.entryAt? document.id = some (.text (.ofDocument document)) := by
  simp [tableOf, ofStore, Store.entryAt?, Store.Table.row?, Store.Row.ofDocument]

theorem damage?_tableOf (document : Document) : (tableOf document).store.damage? document.id =
    if document.updatedAt.FourDigits then none else some (Store.signedTime 9) := by
  rw [Store.damage?, entryAt?_tableOf]
  exact (Store.Row.filled_ofDocument document).damage?_eq

theorem alike_tableOf {user : UserId} {left right : Document} (id : left.id = right.id)
    (owner : left.owner = right.owner) (foreign : left.owner ≠ user)
    (hidden : left.visibility = .ownerOnly) (hiddenToo : right.visibility = .ownerOnly)
    (years : left.updatedAt.FourDigits ↔ right.updatedAt.FourDigits) :
    (tableOf left).Alike user (tableOf right) := by
  refine ⟨.table (.cons (.hidden ?_ ?_ ?_ ?_ ?_ ?_) .nil), rfl, rfl⟩
  · exact congrArg DocumentId.text id
  · exact congrArg UserId.text owner
  · exact fun same => foreign (UserId.text_inj.1 same)
  · exact congrArg Visibility.name hidden
  · exact congrArg Visibility.name hiddenToo
  · rw [(Store.Row.filled_ofDocument left).damage?_eq,
      (Store.Row.filled_ofDocument right).damage?_eq]
    simp only [years]

theorem serve_private_templates :
    let noon : Time.Instant := ⟨⟨2024, 5, 1, by decide⟩, 720, 0, 0, by decide⟩
    let later : Time.Instant := ⟨⟨2025, 1, 1, by decide⟩, 0, 0, 0, by decide⟩
    let service : Service := ⟨"", .empty⟩
    let bob : UserId := ⟨"bob"⟩
    let requests := [(Operation.fetch ⟨"t1"⟩, noon), (.list, noon), (.delete ⟨"t1"⟩, noon),
      (.send ⟨"t1"⟩ "bob@example.org" none, noon)]
    let left := tableOf (privateTemplate noon "plans")
    let right := tableOf (privateTemplate later "other plans")
    left.Alike bob right ∧
      (left.serve service bob requests).2 = (right.serve service bob requests).2 ∧
      (left.serve service bob requests).1.Alike bob
        (right.serve service bob requests).1 := by
  intro noon later service bob requests left right
  have looks : left.Alike bob right :=
    alike_tableOf rfl rfl (by decide) rfl rfl (by decide)
  exact ⟨looks, serve_alike service bob left right looks requests⟩

theorem serve_fetch (service : Service) (user : UserId) (store : Store)
    (transport : Mail.MemoryTransport) (id : DocumentId) (now : Time.Instant) :
    ((ofStore store transport).serve service user [(.fetch id, now)]).2.map
        Observation.answer = [(fetched store id user).map Answer.fetched] := by
  simp only [serve, Operation.program, Operation.request, run_bind, run_fetch]
  cases fetched store id user <;> rfl

/-- A user is told whether a private template of somebody else is of the year 10000. -/
theorem serve_tells_year_10000 :
    let noon : Time.Instant := ⟨⟨2024, 5, 1, by decide⟩, 720, 0, 0, by decide⟩
    let late : Time.Instant := ⟨⟨10000, 1, 1, by decide⟩, 59, 59, 0, by decide⟩
    let answers (made : Time.Instant) :=
      ((tableOf (privateTemplate made "plans")).serve ⟨"", .empty⟩ ⟨"bob"⟩
        [(.fetch ⟨"t1"⟩, noon)]).2.map Observation.answer
    answers noon = [.error (.forbidden ⟨"t1"⟩)] ∧
      answers late = [.error (.store (Store.signedTime 9))] := by
  intro noon late answers
  have told (made : Time.Instant) : answers made =
      [(fetched (tableOf (privateTemplate made "plans")).store ⟨"t1"⟩ ⟨"bob"⟩).map
        Answer.fetched] :=
    serve_fetch _ _ _ _ _ _
  rw [told, told]
  constructor
  · have read := Store.Row.record_ofDocument (privateTemplate noon "plans") (by decide)
    have found : (tableOf (privateTemplate noon "plans")).store.get? ⟨"t1"⟩ = .ok (some _) :=
      Store.get?_eq_some.2 ⟨_, entryAt?_tableOf (privateTemplate noon "plans"), read⟩
    rw [fetched, found]
    rfl
  · have damaged : (tableOf (privateTemplate late "plans")).store.damage? ⟨"t1"⟩ =
        some (Store.signedTime 9) :=
      (damage?_tableOf (privateTemplate late "plans")).trans (if_neg (by decide))
    rw [fetched_of_damaged damaged]
    rfl

end World

end BlockMail.Service
