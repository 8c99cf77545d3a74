import BlockMail.Proofs.Service.Save

/-!
# What requests leave behind

A request that is refused leaves the world as it was, whatever refused it: the request
itself, the store, or the transport. One that is accepted has changed one entry at most,
in the last of its calls.
-/

set_option autoImplicit false

namespace BlockMail.Service

open Store

/-- The worlds differ in the entry under one identifier alone. -/
structure World.Rewrites (before after : World) (id : DocumentId)
    (old new : Option Entry) : Prop where
  was : before.store.entryAt? id = old
  became : after.store.entryAt? id = new
  others : ∀ other, other ≠ id → after.store.entryAt? other = before.store.entryAt? other
  backend : after.store.backend = before.store.backend
  transport : after.transport = before.transport
  faults : after.faults = before.faults

/-- Rewriting an entry that was there adds none under another identifier. -/
theorem World.Rewrites.absent {before after : World} {id key : DocumentId} {entry : Entry}
    {new : Option Entry} (rewrites : before.Rewrites after key (some entry) new)
    (absent : before.store.entryAt? id = none) : after.store.entryAt? id = none := by
  have other : id ≠ key := by
    rintro rfl
    cases absent.symm.trans rewrites.was
  exact (rewrites.others id other).trans absent

/-- A document of a user is new under an identifier. -/
structure World.Adds (before after : World) (fresh : DocumentId) (user : UserId)
    (made : Time.Instant) (document : Document) : Prop where
  named : document.id = fresh
  owned : document.owner = user
  dated : document.updatedAt = made
  added : before.Rewrites after fresh none
    (some (.ofDocument before.store.backend document))

/-- How a request ends that either changes nothing or is accepted with a relation between
its result and the world that it leaves. -/
inductive World.Leaves {Result : Type} (world : World) (now : Time.Instant)
    (request : Request Result) (accepted : Result → World → Prop) : Prop where
  | refused {cause : ServiceError} :
      world.run now request.run = (world, .error cause) → Leaves world now request accepted
  | accepted {result : Result} {after : World} :
      world.run now request.run = (after, .ok result) → accepted result after →
      Leaves world now request accepted

section Rules

variable {Result Next Cause : Type} {world : World} {now : Time.Instant}
  {accepted : Next → World → Prop}

theorem leaves_pure {result : Next} (here : accepted result world) :
    world.Leaves now (pure result) accepted :=
  .accepted rfl here

theorem leaves_throw (cause : ServiceError) :
    world.Leaves now (throw cause : Request Next) accepted :=
  .refused rfl

theorem leaves_ofExcept (refusal : Cause → ServiceError) {value : Except Cause Next}
    (passed : ∀ result, value = .ok result → accepted result world) :
    world.Leaves now (.ofExcept refusal value) accepted := by
  cases value with
  | ok result => exact leaves_pure (passed result rfl)
  | error cause => exact leaves_throw (refusal cause)

/-- What follows a request either starts where that did, as nothing changed, or only
passes a result on. -/
theorem World.Leaves.andThen {request : Request Result} {onward : Result → Request Next}
    {middle : Result → World → Prop} (first : world.Leaves now request middle)
    (rest : ∀ result after, middle result after →
      after = world ∧ world.Leaves now (onward result) accepted ∨
        ∃ final, onward result = pure final ∧ accepted final after) :
    world.Leaves now (request >>= onward) accepted := by
  have ran := World.run_bind world now request onward
  cases first with
  | refused refused =>
      rw [refused] at ran
      exact .refused ran
  | accepted ended here =>
      rw [ended] at ran
      rcases rest _ _ here with ⟨rfl, leaves⟩ | ⟨final, passes, there⟩
      · cases leaves with
        | refused refused => exact .refused (ran.trans refused)
        | accepted done there => exact .accepted (ran.trans done) there
      · simp only [passes] at ran
        exact .accepted ran there

/-- A request that begins by reading. -/
theorem World.Leaves.bind {request : Request Result} {onward : Result → Request Next}
    (first : world.Leaves now request fun _ after => after = world)
    (rest : ∀ result, world.Leaves now (onward result) accepted) :
    world.Leaves now (request >>= onward) accepted :=
  first.andThen fun result _ same => .inl ⟨same, rest result⟩

theorem World.Leaves.weaken {request : Request Next} {narrow : Next → World → Prop}
    (leaves : world.Leaves now request narrow)
    (wider : ∀ result after, narrow result after → accepted result after) :
    world.Leaves now request accepted := by
  cases leaves with
  | refused refused => exact .refused refused
  | accepted ended here => exact .accepted ended (wider _ _ here)

end Rules

/-! ## Calls -/

section Calls

variable {world : World} {now : Time.Instant}

theorem run_ask_of_fault (now : Time.Instant) {call : Store.Call} {fault : Fault}
    (misbehaves : world.faults (kindOf call) = some fault) :
    ∃ outcome, world.run now (Request.ask call).run = (world, outcome) ∧
      ∀ answer, outcome = .ok answer → emptyReply call = .ok answer := by
  cases fault with
  | crash description =>
      refine ⟨.error (.crashed description), ?_, ?_⟩
      · simp only [Request.ask, ExceptT.run, ExceptT.mk, World.run, World.perform, misbehaves]
      · rintro answer ⟨⟩
  | failure reason =>
      refine ⟨.error (.store (.unavailable reason)), ?_, ?_⟩
      · simp only [Request.ask, ExceptT.run, ExceptT.mk, World.run, World.perform, misbehaves]
      · rintro answer ⟨⟩
  | nothing =>
      simp only [Request.ask, ExceptT.run, ExceptT.mk, World.run, World.perform, misbehaves]
      cases emptyReply call with
      | ok answer => exact ⟨.ok answer, rfl, fun _ same => congrArg _ (Except.ok.inj same)⟩
      | error failure =>
          refine ⟨.error (.store failure), rfl, ?_⟩
          rintro answer ⟨⟩

theorem run_ask_of_works (now : Time.Instant) {call : Store.Call}
    (works : world.faults (kindOf call) = none) :
    world.run now (Request.ask call).run =
      ({ world with store := (world.store.perform now call).1 },
        match (world.store.perform now call).2 with
        | .ok answer => .ok answer
        | .error failure => .error (.store failure)) := by
  simp only [Request.ask, ExceptT.run, ExceptT.mk, World.run, World.perform, works]
  cases (world.store.perform now call).2 <;> rfl

/-- A call is refused, finds nothing, or is answered by the store. -/
theorem leaves_ask {call : Store.Call} {accepted : call.Reply → World → Prop}
    (nothing : ∀ answer, emptyReply call = .ok answer → accepted answer world)
    (performed : ∀ answer, (world.store.perform now call).2 = .ok answer →
      accepted answer { world with store := (world.store.perform now call).1 }) :
    world.Leaves now (Request.ask call) accepted := by
  cases state : world.faults (kindOf call) with
  | some fault =>
      obtain ⟨outcome, ran, empty⟩ := run_ask_of_fault now state
      cases outcome with
      | error cause => exact .refused ran
      | ok answer => exact .accepted ran (nothing answer (empty answer rfl))
  | none =>
      have ran := run_ask_of_works now state
      cases reply : (world.store.perform now call).2 with
      | error failure =>
          rw [reply, perform_of_error reply] at ran
          exact .refused ran
      | ok answer =>
          rw [reply] at ran
          exact .accepted ran (performed answer reply)

theorem leaves_get (id : DocumentId) :
    world.Leaves now (Request.ask (.get id)) fun _ after => after = world :=
  leaves_ask (fun _ _ => rfl) fun _ _ => rfl

theorem leaves_list (requester : UserId) :
    world.Leaves now (Service.list requester) fun _ after => after = world :=
  leaves_ask (fun _ _ => rfl) fun _ _ => rfl

theorem rewrites_perform {call : Store.Call} {id : DocumentId} {old new : Option Entry}
    (was : world.store.entryAt? id = old)
    (effect : ∀ other, call.effect world.store.backend now other (world.store.entryAt? other) =
      if other = id then new else world.store.entryAt? other) :
    world.Rewrites { world with store := (world.store.perform now call).1 } id old new := by
  refine ⟨was, ?_, ?_, backend_perform _ _ _, rfl, rfl⟩
  · simp only [entryAt?_perform, effect, if_true]
  · intro other different
    simp only [entryAt?_perform, effect, if_neg different]

theorem leaves_insert (document : Document) :
    world.Leaves now (Request.ask (.insert document)) fun id after =>
      id = document.id ∧ world.Rewrites after document.id none
        (some (.ofDocument world.store.backend document)) := by
  apply leaves_ask
  · intro answer empty
    cases empty
  · intro answer inserted
    cases free : world.store.entryAt? document.id with
    | none =>
        rw [reply_insert_of_absent free] at inserted
        cases inserted
        refine ⟨rfl, rewrites_perform free ?_⟩
        intro other
        simp only [Call.effect]
        split
        · rename_i same
          rw [same, free]
          rfl
        · rfl
    | some entry =>
        have occupied : world.store.entryAt? document.id ≠ none := by simp [free]
        have taken := insert_of_present occupied
        simp [perform, taken] at inserted

/-- A call that asks whose the entry is affects that of the requester, or none. -/
theorem leaves_owned (call : Store.Call) (count : call.Reply → Nat)
    (became : Entry → Option Entry) {id : DocumentId} {requester : UserId}
    (empty : ∀ answer, emptyReply call = .ok answer → count answer = 0)
    (replies : ∀ answer, (world.store.perform now call).2 = .ok answer →
      count answer = if world.store.owns requester id then 1 else 0)
    (foreign : world.store.owns requester id = false →
      (world.store.perform now call).1 = world.store)
    (effect : ∀ entry, world.store.entryAt? id = some entry → entry.owner = requester →
      ∀ other, call.effect world.store.backend now other (world.store.entryAt? other) =
        if other = id then became entry else world.store.entryAt? other) :
    world.Leaves now (Request.ask call) fun answer after =>
      count answer = 0 ∧ after = world ∨
        count answer = 1 ∧ ∃ entry, entry.owner = requester ∧
          world.Rewrites after id (some entry) (became entry) := by
  apply leaves_ask
  · intro answer nothing
    exact .inl ⟨empty answer nothing, rfl⟩
  · intro answer replied
    have affected := replies answer replied
    cases owned : world.store.owns requester id with
    | false =>
        rw [owned] at affected
        rw [foreign owned]
        exact .inl ⟨affected, rfl⟩
    | true =>
        rw [owned] at affected
        obtain ⟨entry, found, own⟩ := owns_iff.1 owned
        exact .inr ⟨affected, entry, own, rewrites_perform found (effect entry found own)⟩

theorem leaves_updateOwned (id : DocumentId) (requester : UserId) (update : FieldUpdate) :
    world.Leaves now (Request.ask (.updateOwned id requester update)) fun affected after =>
      affected = (0 : Nat) ∧ after = world ∨
        affected = (1 : Nat) ∧ ∃ entry, entry.owner = requester ∧
          world.Rewrites after id (some entry) (some (entry.updated update now)) := by
  apply leaves_owned (.updateOwned id requester update) (fun affected => affected)
    fun entry => some (entry.updated update now)
  · intro answer empty
    exact (Except.ok.inj empty).symm
  · intro answer replied
    rw [reply_updateOwned] at replied
    exact (Except.ok.inj replied).symm
  · exact fun foreign => perform_updateOwned_of_foreign foreign now update
  · intro entry found own other
    simp only [Call.effect]
    split
    · rename_i same
      simp [same, found, own]
    · rfl

theorem leaves_deleteOwned (id : DocumentId) (requester : UserId) :
    world.Leaves now (Request.ask (.deleteOwned id requester)) fun affected after =>
      affected = (0 : Nat) ∧ after = world ∨
        affected = (1 : Nat) ∧ ∃ entry, entry.owner = requester ∧
          world.Rewrites after id (some entry) none := by
  apply leaves_owned (.deleteOwned id requester) (fun affected => affected) fun _ => none
  · intro answer empty
    exact (Except.ok.inj empty).symm
  · intro answer replied
    rw [reply_deleteOwned] at replied
    exact (Except.ok.inj replied).symm
  · exact fun foreign => perform_deleteOwned_of_foreign foreign now
  · intro entry found own other
    simp only [Call.effect]
    split
    · rename_i same
      simp [same, found, own, Option.filter_some]
    · rfl

theorem run_hand (world : World) (now : Time.Instant) (mail : Mail.OutgoingMail) :
    world.run now (Request.hand mail).run =
      ({ world with transport := (world.transport.send mail).1 },
        match (world.transport.send mail).2 with
        | .ok delivery => .ok delivery
        | .error cause => .error (.transport cause)) := by
  simp only [Request.hand, ExceptT.run, ExceptT.mk, World.run]
  cases (world.transport.send mail).2 <;> rfl

/-- The transport either takes the mail or stays as it was. -/
theorem leaves_hand (mail : Mail.OutgoingMail) :
    world.Leaves now (Request.hand mail) fun _ after =>
      after.store = world.store ∧ after.faults = world.faults ∧
        after.transport.sent = world.transport.sent ++ [mail] := by
  have ran := run_hand world now mail
  unfold Mail.MemoryTransport.send at ran
  split at ran
  · exact .refused ran
  · exact .accepted ran ⟨rfl, rfl, rfl⟩

end Calls

/-! ## The requests of the service -/

section Requests

variable {world : World} {now : Time.Instant}

/-- The changes that a save makes when it is accepted. -/
inductive Saved (id fresh : DocumentId) (requester : UserId) (made now : Time.Instant)
    (before after : World) : SaveOutcome → Prop where
  | inPlace {entry : Entry} {update : FieldUpdate} :
      entry.owner = requester →
      before.Rewrites after id (some entry) (some (entry.updated update now)) →
      Saved id fresh requester made now before after ⟨id, false⟩
  | forked {document : Document} :
      before.Adds after fresh requester made document → document.forkedFrom = some id →
      Saved id fresh requester made now before after ⟨fresh, true⟩

theorem leaves_create (requester : UserId) (input : NewDocument) (fresh : DocumentId)
    (made : Time.Instant) :
    world.Leaves now (create requester input fresh made) fun id after =>
      id = fresh ∧ ∃ document, world.Adds after fresh requester made document ∧
        document.forkedFrom = none := by
  unfold create
  cases accepted : input.toDocument fresh requester made with
  | error cause => exact .refused rfl
  | ok document =>
      have fields := NewDocument.eq_of_toDocument accepted
      have named : document.id = fresh := by rw [fields]
      have owned : document.owner = requester := by rw [fields]
      have dated : document.updatedAt = made := by rw [fields]
      apply (leaves_insert document).weaken
      rintro id after ⟨rfl, added⟩
      rw [named] at added
      exact ⟨named, document, ⟨named, owned, dated, added⟩,
        NewDocument.forkedFrom_of_toDocument accepted⟩

theorem leaves_stored (id : DocumentId) :
    world.Leaves now (stored id) fun _ after => after = world := by
  apply (leaves_get id).bind
  intro found
  cases found with
  | none => exact leaves_throw _
  | some record => exact leaves_pure rfl

theorem leaves_fetch (id : DocumentId) (requester : UserId) :
    world.Leaves now (fetch id requester) fun _ after => after = world := by
  refine World.Leaves.bind ?_ fun _ => leaves_ofExcept _ fun _ _ => rfl
  apply (leaves_stored id).bind
  intro record
  split
  · exact leaves_pure rfl
  · exact leaves_throw _

theorem leaves_categories (requester : UserId) :
    world.Leaves now (categories requester) fun _ after => after = world :=
  (leaves_list requester).bind fun _ => leaves_pure rfl

theorem leaves_preview (service : Service) (id : DocumentId) (requester : UserId)
    (context : Option Context) :
    world.Leaves now (service.preview id requester context) fun _ after => after = world :=
  (leaves_fetch id requester).bind fun _ => leaves_pure rfl

theorem leaves_send (service : Service) (id : DocumentId) (requester : UserId)
    (recipient : String) (context : Option Context) :
    world.Leaves now (service.send id requester recipient context) fun _ after =>
      after.store = world.store ∧ after.faults = world.faults ∧
        ∃ mail, after.transport.sent = world.transport.sent ++ [mail] := by
  apply World.Leaves.bind (leaves_ofExcept _ fun _ _ => rfl)
  intro _
  apply (leaves_fetch id requester).bind
  intro document
  apply (leaves_hand _).weaken
  rintro delivery after ⟨store, faults, sent⟩
  exact ⟨store, faults, _, sent⟩

theorem leaves_save (id : DocumentId) (requester : UserId) (patch : DocumentPatch)
    (fresh : DocumentId) (made : Time.Instant) :
    world.Leaves now (save id requester patch fresh made) fun outcome after =>
      Saved id fresh requester made now world after outcome := by
  apply (leaves_stored id).bind
  intro record
  apply World.Leaves.bind (leaves_ofExcept _ fun _ _ => rfl)
  intro update
  split
  · apply (leaves_updateOwned id requester update).andThen
    rintro affected after (⟨rfl, rfl⟩ | ⟨rfl, entry, owned, revised⟩)
    · exact .inl ⟨rfl, leaves_throw _⟩
    · exact .inr ⟨_, rfl, .inPlace owned revised⟩
  · split
    · exact leaves_throw _
    · rw [forkBlocks_eq]
      apply World.Leaves.bind (leaves_ofExcept _ fun _ _ => rfl)
      intro blocks
      apply (leaves_insert (forkWith record id update blocks requester fresh made)).andThen
      rintro added after ⟨named, forked⟩
      rw [named]
      exact .inr ⟨_, rfl, .forked ⟨rfl, rfl, rfl, forked⟩ rfl⟩

theorem leaves_delete (id : DocumentId) (requester : UserId) :
    world.Leaves now (delete id requester) fun _ after =>
      ∃ entry, entry.owner = requester ∧ world.Rewrites after id (some entry) none := by
  apply (leaves_deleteOwned id requester).andThen
  rintro affected after (⟨rfl, rfl⟩ | ⟨rfl, removed⟩)
  · -- Nothing was deleted, and the store is only read to say why.
    refine .inl ⟨rfl, (leaves_get id).bind ?_⟩
    intro found
    cases found <;> exact leaves_throw _
  · exact .inr ⟨_, rfl, removed⟩

end Requests

end BlockMail.Service
