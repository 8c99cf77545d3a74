import BlockMail.Proofs.Http.Account
import BlockMail.Proofs.Http.Principal
import BlockMail.Proofs.Service.Reading
import BlockMail.Proofs.Store.Listing

/-!
# Private templates of other users

A template that a user keeps private is out of reach for every other user of the
interface: it is not listed, and whatever is asked about it is refused. Which requests are
those of another user is decided by the header, and values of it that are not legible
name one and the same user.
-/

set_option autoImplicit false

namespace BlockMail

/-- Whatever is kept under an identifier is private to somebody else, and read back. -/
def Store.Hides (store : Store) (user : UserId) (id : DocumentId) : Prop :=
  ∀ entry, store.entryAt? id = some entry → entry.owner ≠ user ∧
    entry.visibilityName = Visibility.ownerOnly.name ∧ entry.damage? = none

namespace Http

open Service (World)
open Store (Entry Backend)

/-! ## Requests that are turned away -/

section Hidden

variable {store : Store} {user : UserId} {id : DocumentId}

theorem owns_of_hides (hides : store.Hides user id) : store.owns user id = false := by
  rw [← Bool.not_eq_true, Store.owns_iff]
  rintro ⟨entry, found, owned⟩
  exact (hides entry found).1 owned

theorem get?_of_hides (hides : store.Hides user id) :
    store.get? id = .ok none ∨ ∃ record, store.get? id = .ok (some record) ∧
      record.owner ≠ user ∧ record.visibility = .ownerOnly := by
  cases found : store.entryAt? id with
  | none =>
      left
      rw [Store.get?_eq, found]
  | some entry =>
      obtain ⟨foreign, hidden, whole⟩ := hides entry found
      obtain ⟨record, read⟩ := Entry.damage?_eq_none.1 whole
      have reads := Entry.readsAs read
      refine .inr ⟨record, Store.get?_eq_some.2 ⟨entry, found, read⟩, ?_, ?_⟩
      · rw [reads.owner]
        exact foreign
      · exact Visibility.name_inj (reads.visibility.trans hidden)

/-- A request that is refused as the fault of whoever makes it, without any effect. -/
def TurnsAway {Result : Type} (world : World) (now : Time.Instant)
    (request : Service.Request Result) : Prop :=
  ∃ cause, world.run now request.run = (world, .error cause) ∧ statusOf cause < 500

variable {Result Next Cause : Type} {world : World} {now : Time.Instant}

theorem TurnsAway.bind {request : Service.Request Result}
    (away : TurnsAway world now request) (onward : Result → Service.Request Next) :
    TurnsAway world now (request >>= onward) := by
  obtain ⟨cause, ran, client⟩ := away
  refine ⟨cause, ?_, client⟩
  rw [World.run_bind, ran]

theorem turnsAway_ofExcept {refusal : Cause → ServiceError} {value : Except Cause Result}
    {onward : Result → Service.Request Next} (client : ∀ cause, statusOf (refusal cause) < 500)
    (rest : ∀ result, TurnsAway world now (onward result)) :
    TurnsAway world now (.ofExcept refusal value >>= onward) := by
  cases value with
  | ok result =>
      obtain ⟨cause, ran, status⟩ := rest result
      exact ⟨cause, (World.run_bind world now _ onward).trans ran, status⟩
  | error cause => exact ⟨refusal cause, rfl, client cause⟩

variable (transport : Mail.MemoryTransport)

theorem turnsAway_fetch (hides : store.Hides user id) :
    TurnsAway (.ofStore store transport) now (Service.fetch id user) := by
  unfold TurnsAway
  rw [Service.run_fetch]
  unfold Service.fetched
  rcases get?_of_hides hides with absent | ⟨record, found, foreign, hidden⟩
  · rw [absent]
    exact ⟨.notFound id, rfl, (by decide : 404 < 500)⟩
  · have unseen : record.isVisibleTo user = false := by
      simp [DocumentRecord.isVisibleTo, hidden, foreign]
    rw [found]
    simp only [Service.lookedUp, unseen]
    exact ⟨.forbidden id, rfl, (by decide : 403 < 500)⟩

theorem turnsAway_send (service : Service) (hides : store.Hides user id) (recipient : String)
    (context : Option Context) :
    TurnsAway (.ofStore store transport) now (service.send id user recipient context) := by
  apply turnsAway_ofExcept
  · intro cause
    exact (by decide : 400 < 500)
  · intro _
    exact (turnsAway_fetch transport hides).bind _

theorem turnsAway_save (hides : store.Hides user id) (patch : DocumentPatch)
    (fresh : DocumentId) (made : Time.Instant) :
    TurnsAway (.ofStore store transport) now (Service.save id user patch fresh made) := by
  unfold TurnsAway Service.save
  rw [World.run_bind, Service.run_stored]
  rcases get?_of_hides hides with absent | ⟨record, found, foreign, hidden⟩
  · rw [absent]
    exact ⟨.notFound id, rfl, (by decide : 404 < 500)⟩
  · rw [found]
    apply turnsAway_ofExcept
    · intro cause
      exact (by decide : 400 < 500)
    · intro update
      rw [if_neg foreign, if_pos hidden]
      exact ⟨.forbidden id, rfl, (by decide : 403 < 500)⟩

theorem turnsAway_delete (hides : store.Hides user id) :
    TurnsAway (.ofStore store transport) now (Service.delete id user) := by
  have foreign := owns_of_hides hides
  have asked := World.run_ask store transport now (.deleteOwned id user)
  rw [Store.reply_deleteOwned, foreign, Store.perform_deleteOwned_of_foreign foreign] at asked
  unfold TurnsAway Service.delete
  rw [World.run_bind, asked]
  dsimp only
  rw [if_neg Bool.false_ne_true, if_neg Nat.zero_ne_one, World.run_bind, World.run_ask]
  rcases get?_of_hides hides with absent | ⟨record, found, _, _⟩
  · simp only [Store.perform, absent]
    exact ⟨.notFound id, rfl, (by decide : 404 < 500)⟩
  · simp only [Store.perform, found]
    exact ⟨.forbidden id, rfl, (by decide : 403 < 500)⟩

end Hidden

/-! ## Requests about one template -/

/-- Whether a request is a fetch, a save, a deletion, a preview or a mail of the template
with an identifier. -/
def Request.Concerns (request : Request) (id : DocumentId) : Prop :=
  match request.action? with
  | some (.fetch part) | some (.save part) | some (.delete part) | some (.preview part) =>
      identifier? part = some id.text
  | some .send =>
      ∃ input, readBody SendRequest.decode request = .ok input ∧ input.templateId = id
  | _ => False

/-- A handling that ends in an error of the client without any effect. -/
def Handling.TurnsAway (world : World) (now : Time.Instant) (handling : Handling) : Prop :=
  (carryOut world now handling).1 = world ∧
    400 ≤ (carryOut world now handling).2.status ∧
    (carryOut world now handling).2.status < 500

section Handlings

variable {world : World} {now : Time.Instant} {id : DocumentId}

theorem Handling.turnsAway_asked {Result : Type} {request : Service.Request Result}
    (away : Http.TurnsAway world now request) (respond : Result → Response) :
    (Handling.asked request respond).TurnsAway world now := by
  obtain ⟨cause, ran, client⟩ := away
  have ended : carryOut world now (.asked request respond) = (world, refused cause) := by
    simp only [carryOut, ran]
  unfold Handling.TurnsAway
  rw [ended]
  exact ⟨rfl, le_statusOf cause, client⟩

theorem Handling.turnsAway_withBody {Value : Type} {body : Except BodyFault Value}
    {handle : Value → Handling}
    (away : ∀ value, body = .ok value → (handle value).TurnsAway world now) :
    (withBody body handle).TurnsAway world now := by
  cases body with
  | ok value => exact away value rfl
  | error fault => exact ⟨rfl, status_of_fault fault⟩

theorem Handling.turnsAway_withIdentifier {part : List Char}
    {handle : DocumentId → Handling} (named : identifier? part = some id.text)
    (away : (handle id).TurnsAway world now) :
    (withIdentifier part handle).TurnsAway world now := by
  unfold withIdentifier
  rw [named]
  exact away

end Handlings

section Requests

variable (service : Service) {store : Store} (transport : Mail.MemoryTransport)
  {request : Request} {id : DocumentId} (fresh : DocumentId) (now : Time.Instant)

theorem respond_turnsAway (hides : store.Hides request.requester id)
    (concerns : request.Concerns id) :
    let answer := respond service (.ofStore store transport) request fresh now
    answer.1 = .ofStore store transport ∧ 400 ≤ answer.2.status ∧ answer.2.status < 500 := by
  intro answer
  have away : (handling service request fresh now).TurnsAway
      (.ofStore store transport) now := by
    unfold Request.Concerns at concerns
    split at concerns
    · rename_i part asked
      rw [handling_eq service asked]
      unfold handlingOf
      apply Handling.turnsAway_withIdentifier concerns
      exact Handling.turnsAway_asked (turnsAway_fetch transport hides) _
    · rename_i part asked
      rw [handling_eq service asked]
      unfold handlingOf
      apply Handling.turnsAway_withIdentifier concerns
      apply Handling.turnsAway_withBody
      intro patch _
      exact Handling.turnsAway_asked (turnsAway_save transport hides patch fresh now) _
    · rename_i part asked
      rw [handling_eq service asked]
      unfold handlingOf
      apply Handling.turnsAway_withIdentifier concerns
      exact Handling.turnsAway_asked (turnsAway_delete transport hides) _
    · rename_i part asked
      rw [handling_eq service asked]
      unfold handlingOf
      apply Handling.turnsAway_withIdentifier concerns
      exact Handling.turnsAway_asked ((turnsAway_fetch transport hides).bind _) _
    · rename_i asked
      obtain ⟨input, read, about⟩ := concerns
      rw [handling_eq service asked]
      unfold handlingOf
      apply Handling.turnsAway_withBody
      intro other same
      cases read.symm.trans same
      rw [about]
      exact Handling.turnsAway_asked (turnsAway_send transport service hides _ _) _
    · cases concerns
  obtain ⟨unchanged, client⟩ := away
  refine ⟨unchanged, ?_⟩
  rw [respond_status]
  exact client

/-- What is hidden from a user is not in the listing that the user is given. -/
theorem respond_list (named : store.Named) (hides : store.Hides request.requester id)
    (asked : request.action? = some .list) {items : List Json}
    (given : (respond service (.ofStore store transport) request fresh now).2.body =
      .json (.array items)) :
    ∀ item ∈ items, item.member? "id" ≠ some (.string id.text) := by
  have ran := World.run_ask store transport now (.list request.requester)
  unfold respond at given
  rw [handling_eq service asked] at given
  simp only [handlingOf, carryOut, Service.list, ran, Store.perform] at given
  cases listed : store.list request.requester with
  | error failure =>
      rw [listed] at given
      dsimp only at given
      split at given <;> cases given
  | ok summaries =>
      rw [listed] at given
      dsimp only at given
      split at given
      · cases given
      · cases given
        intro item member same
        obtain ⟨summary, there, rfl⟩ := List.mem_map.1 member
        have own : summary.id = id := by
          have text : (Json.string summary.id.text) = .string id.text := Option.some.inj same
          exact DocumentId.text_inj.1 (Json.string.inj text)
        obtain ⟨entry, found, visible⟩ := Store.mem_list named listed there
        rw [own] at found
        obtain ⟨foreign, hidden, _⟩ := hides entry found
        rcases visible with shown | owned
        · rw [hidden] at shown
          cases Visibility.name_inj shown
        · exact foreign owned

end Requests

/-! ## Runs -/

/-- A request that arrives at a time, and the identifier for what it may make. -/
structure Arrival where
  request : Request
  fresh : DocumentId
  now : Time.Instant

def Arrival.serve (service : Service) (world : World) (arrival : Arrival) : World :=
  (respond service world arrival.request arrival.fresh arrival.now).1

def serve (service : Service) (world : World) (arrivals : List Arrival) : World :=
  arrivals.foldl (Arrival.serve service) world

/-- An entry of a user that can be read back. -/
structure KeptBy (user : UserId) (backend : Backend) (entry : Entry) : Prop where
  owned : entry.owner = user
  known : ∃ visibility : Visibility, entry.visibilityName = visibility.name
  dated : ∃ time, entry.Dated time ∧ (backend = .table → time.FourDigits)

theorem keptBy_ofDocument {backend : Backend} {document : Document}
    (years : backend = .table → document.updatedAt.FourDigits) :
    KeptBy document.owner backend (.ofDocument backend document) := by
  refine ⟨Entry.owner_ofDocument backend document, ⟨document.visibility, ?_⟩,
    ⟨document.updatedAt, ?_, years⟩⟩
  · cases backend <;> rfl
  · cases backend <;> rfl

theorem KeptBy.updated {user : UserId} {backend : Backend} {entry : Entry}
    (kept : KeptBy user backend entry) (update : FieldUpdate) {now : Time.Instant}
    (years : backend = .table → now.FourDigits) :
    KeptBy user backend (entry.updated update now) := by
  obtain ⟨owned, ⟨visibility, known⟩, _⟩ := kept
  refine ⟨(Entry.owner_updated entry update now).trans owned,
    ⟨update.visibility.getD visibility, ?_⟩, ⟨now, ?_, years⟩⟩
  · have name : (entry.updated update now).visibilityName =
        (update.visibility.map Visibility.name).getD entry.visibilityName := by
      cases entry with
      | text row => rfl
      | structured record => cases set : update.visibility <;>
          simp [Entry.updated, Entry.visibilityName, DocumentRecord.updated, set]
    rw [name, known]
    cases update.visibility <;> rfl
  · cases entry <;> rfl

/-- A world in which nothing misbehaves and, if there is still anything under an
identifier, it is a user's. -/
structure Guards (user : UserId) (backend : Backend) (id : DocumentId) (world : World) :
    Prop where
  ordinary : world.faults = fun _ => none
  kind : world.store.backend = backend
  named : world.store.Named
  kept : ∀ entry, world.store.entryAt? id = some entry → KeptBy user backend entry

section Runs

variable {user : UserId} {backend : Backend} {id : DocumentId} {before after : World}

theorem Guards.rewritten (guards : Guards user backend id before) {key : DocumentId}
    {old new : Option Entry} (rewrites : before.Rewrites after key old new)
    (named : ∀ entry, new = some entry → entry.id = key)
    (kept : key = id → ∀ entry, new = some entry → KeptBy user backend entry) :
    Guards user backend id after := by
  refine ⟨rewrites.faults.trans guards.ordinary, rewrites.backend.trans guards.kind, ?_, ?_⟩
  · intro other entry found
    by_cases same : other = key
    · subst same
      exact named entry (rewrites.became.symm.trans found)
    · rw [rewrites.others other same] at found
      exact guards.named other entry found
  · intro entry found
    by_cases same : id = key
    · subst same
      exact kept rfl entry (rewrites.became.symm.trans found)
    · rw [rewrites.others id same] at found
      exact guards.kept entry found

theorem Guards.added (guards : Guards user backend id before) {fresh : DocumentId}
    {maker : UserId} {made : Time.Instant} {document : Document}
    (adds : before.Adds after fresh maker made document) (other : fresh ≠ id) :
    Guards user backend id after := by
  apply guards.rewritten adds.added
  · rintro entry ⟨⟩
    rw [Entry.id_ofDocument]
    exact adds.named
  · intro same
    exact absurd same other

theorem Guards.respond (guards : Guards user backend id before) (service : Service)
    (request : Request) {fresh : DocumentId} {now : Time.Instant} (other : fresh ≠ id)
    (years : backend = .table → now.FourDigits) :
    Guards user backend id (Http.respond service before request fresh now).1 := by
  cases asked : request.action? with
  | none =>
      rw [respond_of_none service before request fresh now asked]
      exact guards
  | some action =>
      apply respond_of_effect service before request fresh now asked
        (Guards user backend id) guards
      intro after effect
      cases action with
      | health | list | categories | fetch | preview =>
          cases effect
          exact guards
      | create =>
          obtain ⟨document, adds⟩ := effect
          exact guards.added adds other
      | save part =>
          obtain ⟨key, outcome, _, saved⟩ := effect
          cases saved with
          | forked adds _ => exact guards.added adds other
          | inPlace owned revised =>
              rename_i entry update
              apply guards.rewritten revised
              · rintro _ ⟨⟩
                rw [Entry.id_updated]
                exact guards.named key entry revised.was
              · rintro rfl _ ⟨⟩
                exact (guards.kept entry revised.was).updated update years
      | delete part =>
          obtain ⟨key, entry, _, _, removed⟩ := effect
          apply guards.rewritten removed
          · rintro entry ⟨⟩
          · rintro _ entry ⟨⟩
      | send =>
          obtain ⟨store, faults, _⟩ := effect
          refine ⟨faults.trans guards.ordinary, ?_, ?_, ?_⟩
          · rw [store]
            exact guards.kind
          · rw [store]
            exact guards.named
          · rw [store]
            exact guards.kept

theorem Guards.served (guards : Guards user backend id before) (service : Service)
    {arrivals : List Arrival} (others : ∀ arrival ∈ arrivals, arrival.fresh ≠ id)
    (years : backend = .table → ∀ arrival ∈ arrivals, arrival.now.FourDigits) :
    Guards user backend id (serve service before arrivals) := by
  induction arrivals generalizing before with
  | nil => exact guards
  | cons arrival rest ih =>
      apply ih
      · exact guards.respond service arrival.request (others arrival List.mem_cons_self)
          fun table => years table arrival List.mem_cons_self
      · intro later member
        exact others later (List.mem_cons_of_mem _ member)
      · intro table later member
        exact years table later (List.mem_cons_of_mem _ member)

/-- A request after which there is a template under an identifier, and was none before,
made the template for its own user. -/
theorem guards_of_created {service : Service} {creation : Arrival}
    (ordinary : before.faults = fun _ => none) (named : before.store.Named)
    (absent : before.store.entryAt? id = none)
    (present : (creation.serve service before).store.entryAt? id ≠ none)
    (years : before.store.backend = .table → creation.now.FourDigits) :
    Guards creation.request.requester before.store.backend id
      (creation.serve service before) := by
  have unguarded (user : UserId) : Guards user before.store.backend id before := by
    refine ⟨ordinary, rfl, named, ?_⟩
    intro entry found
    cases absent.symm.trans found
  have adding {after : World} {document : Document}
      (adds : before.Adds after creation.fresh creation.request.requester creation.now
        document) :
      Guards creation.request.requester before.store.backend id after := by
    apply (unguarded _).rewritten adds.added
    · rintro entry ⟨⟩
      rw [Entry.id_ofDocument]
      exact adds.named
    · rintro rfl entry ⟨⟩
      rw [← adds.owned]
      apply keptBy_ofDocument
      rw [adds.dated]
      exact years
  unfold Arrival.serve at present ⊢
  cases asked : creation.request.action? with
  | none =>
      rw [respond_of_none service before creation.request creation.fresh creation.now
        asked] at present
      exact absurd absent present
  | some action =>
      by_cases success :
          (Http.respond service before creation.request creation.fresh creation.now).2.Success
      · have effect := respond_effect service before creation.request creation.fresh
          creation.now asked success
        generalize (Http.respond service before creation.request creation.fresh
          creation.now).1 = after at effect present ⊢
        cases action with
        | health | list | categories | fetch | preview =>
            cases effect
            exact absurd absent present
        | create =>
            obtain ⟨document, adds⟩ := effect
            exact adding adds
        | save part =>
            obtain ⟨key, outcome, _, saved⟩ := effect
            cases saved with
            | forked adds _ => exact adding adds
            | inPlace _ revised => exact absurd (revised.absent absent) present
        | delete part =>
            obtain ⟨key, entry, _, _, removed⟩ := effect
            exact absurd (removed.absent absent) present
        | send =>
            obtain ⟨store, _⟩ := effect
            rw [store] at present
            exact absurd absent present
      · rw [respond_of_failure service before creation.request creation.fresh creation.now
          success] at present
        exact absurd absent present

theorem Guards.hides (guards : Guards user backend id after) {visitor : UserId}
    (foreign : user ≠ visitor)
    (hidden : ∀ entry, after.store.entryAt? id = some entry →
      entry.visibilityName ≠ Visibility.everyone.name) : after.store.Hides visitor id := by
  intro entry found
  obtain ⟨owned, ⟨visibility, known⟩, time, dated, years⟩ := guards.kept entry found
  refine ⟨owned ▸ foreign, ?_, ?_⟩
  · rw [known]
    cases visibility with
    | ownerOnly => rfl
    | everyone => exact absurd known (hidden entry found)
  · exact Entry.damage?_of_dated found known dated fun table =>
      years (guards.kind.symm.trans table)

end Runs

/-- A template that a request made under one header value is out of reach for every later
request under another, as long as it is not public: the request is not listed it, and if
it is about the template, is refused and changes nothing. -/
theorem private_templates_stay_apart (service : Service) {store : Store}
    (transport : Mail.MemoryTransport) {creation visit : Arrival} {between : List Arrival}
    {id : DocumentId} {bytes others : List UInt8} (named : store.Named)
    (absent : store.entryAt? id = none)
    (created : (creation.serve service (.ofStore store transport)).store.entryAt? id ≠ none)
    (creator : creation.request.user = some bytes) (visitor : visit.request.user = some others)
    (apart : Apart bytes others) (unique : ∀ arrival ∈ between, arrival.fresh ≠ id)
    (years : store.backend = .table →
      ∀ arrival ∈ creation :: between, arrival.now.FourDigits) :
    let reached := serve service (.ofStore store transport) (creation :: between)
    let answer := respond service reached visit.request visit.fresh visit.now
    (∀ entry, reached.store.entryAt? id = some entry →
      entry.visibilityName ≠ Visibility.everyone.name) →
    (visit.request.action? = some .list →
      ∀ items, answer.2.body = .json (.array items) →
        ∀ item ∈ items, item.member? "id" ≠ some (.string id.text)) ∧
    (visit.request.Concerns id →
      answer.1 = reached ∧ 400 ≤ answer.2.status ∧ answer.2.status < 500) := by
  intro reached answer hidden
  have made : Guards creation.request.requester store.backend id
      (creation.serve service (.ofStore store transport)) :=
    guards_of_created rfl named absent created fun table =>
      years table creation List.mem_cons_self
  have guards : Guards creation.request.requester store.backend id reached := by
    apply made.served service unique
    intro table arrival member
    exact years table arrival (List.mem_cons_of_mem _ member)
  have hides := guards.hides (apart.requester_ne creator visitor) hidden
  have ordinary : reached = .ofStore reached.store reached.transport := by
    have faults := guards.ordinary
    generalize reached = world at faults
    cases world
    cases faults
    rfl
  constructor
  · intro asked items given
    have listed : (respond service (.ofStore reached.store reached.transport) visit.request
        visit.fresh visit.now).2.body = .json (.array items) := by
      rw [← ordinary]
      exact given
    exact respond_list service reached.transport visit.fresh visit.now guards.named hides asked
      listed
  · intro concerns
    have away := respond_turnsAway service reached.transport visit.fresh visit.now hides
      concerns
    rw [← ordinary] at away
    exact away

/-- Bob asks for a template that Ada has just made. -/
theorem private_templates_stay_apart_from_bob :
    let noon : Time.Instant := ⟨⟨2024, 5, 1, by decide⟩, 720, 0, 0, by decide⟩
    let service : Service := ⟨"", .empty⟩
    let creation : Arrival :=
      ⟨⟨"POST", "/api/templates", some "ada".toUTF8.toList, some "application/json",
        "\x7b\x7d"⟩, ⟨"d1"⟩, noon⟩
    let visit : Arrival :=
      ⟨⟨"GET", "/api/templates/d1", some "bob".toUTF8.toList, none, ""⟩, ⟨"d2"⟩, noon⟩
    let reached := serve service (.ofStore (.empty .memory) .empty) [creation]
    let answer := respond service reached visit.request visit.fresh visit.now
    (reached.store.entryAt? ⟨"d1"⟩).isSome = true ∧
      answer.1 = reached ∧ 400 ≤ answer.2.status ∧ answer.2.status < 500 := by
  intro noon service creation visit reached answer
  have present : (reached.store.entryAt? ⟨"d1"⟩).isSome = true := by decide +kernel
  have apart : Apart "ada".toUTF8.toList "bob".toUTF8.toList := by
    constructor <;> decide +kernel
  have concerns : visit.request.Concerns ⟨"d1"⟩ := by
    have asked : visit.request.action? = some (.fetch "d1".toList) := by decide +kernel
    unfold Request.Concerns
    rw [asked]
    decide +kernel
  have named : (Store.empty .memory).Named := by
    intro id entry found
    cases (Store.entryAt?_empty .memory id).symm.trans found
  have unique : ∀ arrival ∈ ([] : List Arrival), arrival.fresh ≠ ⟨"d1"⟩ := by
    intro arrival member
    cases member
  have kept : (reached.store.entryAt? ⟨"d1"⟩).map Entry.visibilityName =
      some Visibility.ownerOnly.name := by decide +kernel
  have hidden : ∀ entry, reached.store.entryAt? ⟨"d1"⟩ = some entry →
      entry.visibilityName ≠ Visibility.everyone.name := by
    intro entry found
    rw [found] at kept
    rw [Option.some.inj kept]
    decide
  have inMemory : (Store.empty .memory).backend = .table →
      ∀ arrival ∈ [creation], arrival.now.FourDigits := by
    rintro ⟨⟩
  exact ⟨present, (private_templates_stay_apart service .empty named rfl
    (Option.isSome_iff_ne_none.1 present) rfl rfl apart unique inMemory hidden).2 concerns⟩

/-- Two header values that are not legible name the same user, who is given the private
template of the other. -/
theorem illegible_principals_merge :
    let noon : Time.Instant := ⟨⟨2024, 5, 1, by decide⟩, 720, 0, 0, by decide⟩
    let service : Service := ⟨"", .empty⟩
    let creation : Arrival :=
      ⟨⟨"POST", "/api/templates", some [0xC3, 0xA9], some "application/json", "\x7b\x7d"⟩,
        ⟨"d1"⟩, noon⟩
    let visit : Arrival :=
      ⟨⟨"GET", "/api/templates/d1", some [0xC3, 0xBC], none, ""⟩, ⟨"d2"⟩, noon⟩
    let reached := serve service (.ofStore (.empty .memory) .empty) [creation]
    trimmedBytes [0xC3, 0xA9] ≠ [] ∧ trimmedBytes [0xC3, 0xBC] ≠ [] ∧
      trimmedBytes [0xC3, 0xA9] ≠ trimmedBytes [0xC3, 0xBC] ∧
      (reached.store.entryAt? ⟨"d1"⟩).map Entry.visibilityName =
        some Visibility.ownerOnly.name ∧
      visit.request.action? = some (.fetch "d1".toList) ∧
      (respond service reached visit.request visit.fresh visit.now).2.status = 200 := by
  decide +kernel

end Http

end BlockMail
