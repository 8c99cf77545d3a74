import BlockMail.Proofs.Service.Schedule
import BlockMail.Proofs.Template.Patch

/-!
# Lifetimes of templates under concurrent requests

However requests interleave, a template keeps its identity from its insertion to
its removal, only its owner changes or removes it, and once removed it is gone
for good. The invariant is that every request carries a licence to insert one
document, which it gives up on inserting, so no identifier that was ever in the
store can be inserted again.
-/

set_option autoImplicit false

namespace BlockMail.Service

/-! ## What requests may write -/

/-- A requester writes only what is theirs, and inserts at most one document,
under the identifier that the licence names. -/
def custody (requester : UserId) : Protocol (Option DocumentId) where
  permits licence call :=
    match call with
    | .get _ | .list _ => True
    | .insert document => licence = some document.id ∧ document.owner = requester
    | .updateOwned _ owner _ | .deleteOwned _ owner => owner = requester
  delivers _ := True
  expects _ _ _ := True
  advance licence call _ :=
    match call with
    | .insert _ => none
    | _ => licence

/-- A program that keeps custody, whatever it ends with. -/
def InCustody (requester : UserId) (licence : Option DocumentId)
    (program : Program (Except ServiceError Answer)) : Prop :=
  program.Follows (custody requester) (fun _ _ => True) licence

theorem program_inCustody (service : Service) (requester : UserId)
    (operation : Operation) :
    InCustody requester operation.fresh? (operation.program service requester) := by
  have free (licence : Option DocumentId) :
      (custody requester).ReadsFreely licence :=
    ⟨fun _ => trivial, fun _ => trivial, fun _ _ => rfl, fun _ _ => rfl, trivial⟩
  cases operation with
  | create input fresh made =>
      apply Request.Follows.bind
      apply follows_create
      · intro _ outcome _
        cases outcome <;> trivial
      · intro document accepted
        obtain ⟨_, named, owned, _⟩ := NewDocument.blocks_of_toDocument accepted
        exact ⟨by rw [named]; rfl, owned⟩
  | save id patch fresh made =>
      apply Request.Follows.bind
      apply follows_save
      · intro _ outcome _
        cases outcome <;> trivial
      · intro _ _ _ _ _
        trivial
      · trivial
      · intro record update _ _ _
        rfl
      · intro record update blocks _ _ _ _ _
        exact ⟨rfl, rfl⟩
  | delete id =>
      apply Request.Follows.bind
      apply follows_delete
      · rfl
      · intro _
        trivial
      · intro _ _
        trivial
      · intro _ _
        exact ⟨trivial, fun _ => trivial⟩
  | fetch | list | categories | preview | send =>
      exact Operation.follows_of_reads trivial (free _) (fun _ _ => trivial)
        fun _ _ _ _ _ => trivial

/-! ## Identifiers are used once -/

/-- No request can insert a document under the identifier any more. -/
structure Spent (shared : Shared) (id : DocumentId) : Prop where
  issued : id ∈ shared.issued
  unlicensed : ∀ (position : Nat) (running : Running),
    shared.requests[position]? = some running →
    ∃ licence, licence ≠ some id ∧
      InCustody running.requester licence running.rest

theorem custody_advance_ne {requester : UserId} {licence : Option DocumentId}
    {id : DocumentId} (other : licence ≠ some id) (query : Store.Call)
    (reply : Except Store.Failure query.Reply) :
    (custody requester).advance licence query reply ≠ some id := by
  cases query with
  | insert => simp [custody]
  | get | list | updateOwned | deleteOwned => exact other

theorem Spent.preserved {service : Service} {before after : Shared} {move : Move}
    {id : DocumentId} (spent : Spent before id)
    (transition : Shared.Transition service before move after)
    (distinct : after.issued.Nodup) : Spent after id := by
  have issued := Shared.issued_of_transition transition
  refine ⟨by rw [issued]; exact List.mem_append_left _ spent.issued, ?_⟩
  intro position running there
  cases transition.origin there with
  | waiting here => exact spent.unlicensed position running here
  | started =>
      rename_i requester operation _ _
      refine ⟨operation.fresh?, ?_, program_inCustody service requester operation⟩
      intro same
      rw [issued, List.nodup_append] at distinct
      exact distinct.2.2 id spent.issued id (by simp [Move.fresh?, same]) rfl
  | called here left =>
      obtain ⟨licence, other, custody⟩ := spent.unlicensed position _ here
      rw [left] at custody
      exact ⟨_, custody_advance_ne other _ _, custody.2 _ trivial⟩
  | delivered here left =>
      obtain ⟨licence, other, custody⟩ := spent.unlicensed position _ here
      rw [left] at custody
      exact ⟨licence, other, custody.2 _⟩

/-- Requests keep custody, under licences for their own generated identifiers,
and no identifier in the store can be inserted again. -/
structure Orderly (shared : Shared) : Prop where
  licensed : ∀ (position : Nat) (running : Running),
    shared.requests[position]? = some running →
    ∃ licence, InCustody running.requester licence running.rest ∧
      ∀ id, licence = some id → running.operation.fresh? = some id
  named : ∀ id entry, shared.store.entryAt? id = some entry → entry.id = id
  spent : ∀ id, shared.store.entryAt? id ≠ none → Spent shared id

theorem orderly_initial (backend : Store.Backend) :
    Orderly (.initial backend) := by
  refine ⟨?_, ?_, ?_⟩
  · intro position running there
    simp [Shared.initial] at there
  · intro id entry found
    simp [Shared.initial] at found
  · intro id present
    simp [Shared.initial] at present

/-- Where nothing was and nothing can be inserted, nothing appears. -/
theorem Spent.stays_absent {service : Service} {before after : Shared}
    {move : Move} {id : DocumentId} (spent : Spent before id)
    (transition : Shared.Transition service before move after)
    (absent : before.store.entryAt? id = none) :
    after.store.entryAt? id = none := by
  rcases transition.entryAt? id with same | ⟨_, _, _, _, _, _, _, here, left, _, after⟩
  · rw [same, absent]
  · rw [after, absent]
    cases added : Store.Call.effect _ _ _ _ _ with
    | none => rfl
    | some entry =>
        obtain ⟨document, rfl, named, _⟩ := Store.effect_none added
        obtain ⟨licence, other, custody⟩ := spent.unlicensed _ _ here
        rw [left] at custody
        exact absurd (named ▸ custody.1.1) other

/-- An entry that a move changes is changed by a request of its owner. -/
theorem Orderly.changed_by_owner {service : Service} {before after : Shared}
    {move : Move} {id : DocumentId} {entry : Store.Entry}
    (orderly : Orderly before)
    (transition : Shared.Transition service before move after)
    (found : before.store.entryAt? id = some entry)
    (changed : after.store.entryAt? id ≠ some entry) :
    ∃ index now handover running, move = .advance index now handover ∧
      before.requests[index]? = some running ∧
      running.requester = entry.owner := by
  rcases transition.entryAt? id with
    same | ⟨index, now, handover, running, query, _, moved, here, left, _, after⟩
  · exact absurd (same.trans found) changed
  · refine ⟨index, now, handover, running, moved, here, ?_⟩
    obtain ⟨licence, custody, _⟩ := orderly.licensed index running here
    rw [left] at custody
    rw [after, found] at changed
    rcases Store.effect_some changed with ⟨update, rfl, _⟩ | ⟨rfl, _⟩
    · exact custody.1.symm
    · exact custody.1.symm

/-- What a move leaves of an entry has the identity it had. -/
theorem kept_identity {service : Service} {before after : Shared} {move : Move}
    {id : DocumentId} {old new : Store.Entry}
    (transition : Shared.Transition service before move after)
    (found : before.store.entryAt? id = some old)
    (left : after.store.entryAt? id = some new) :
    new.id = old.id ∧ new.owner = old.owner ∧ new.forkedFrom = old.forkedFrom := by
  rcases transition.entryAt? id with same | ⟨_, _, _, _, _, _, _, _, _, _, after⟩
  · rw [same, found] at left
    cases left
    exact ⟨rfl, rfl, rfl⟩
  · rw [after, found] at left
    exact Store.effect_identity left

theorem Orderly.preserved {service : Service} {before after : Shared} {move : Move}
    (orderly : Orderly before)
    (transition : Shared.Transition service before move after)
    (distinct : after.issued.Nodup) : Orderly after := by
  have licensed (position : Nat) (running : Running)
      (there : after.requests[position]? = some running) :
      ∃ licence, InCustody running.requester licence running.rest ∧
        ∀ id, licence = some id → running.operation.fresh? = some id := by
    cases transition.origin there with
    | waiting here => exact orderly.licensed position running here
    | started =>
        exact ⟨_, program_inCustody service _ _, fun _ named => named⟩
    | called here left =>
        rename_i query _ _
        obtain ⟨licence, custody, named⟩ := orderly.licensed position _ here
        rw [left] at custody
        refine ⟨_, custody.2 _ trivial, ?_⟩
        intro id kept
        cases query with
        | insert => cases kept
        | get | list | updateOwned | deleteOwned => exact named id kept
    | delivered here left =>
        obtain ⟨licence, custody, named⟩ := orderly.licensed position _ here
        rw [left] at custody
        exact ⟨licence, custody.2 _, named⟩
  refine ⟨licensed, ?_, ?_⟩
  · intro id entry found
    cases already : before.store.entryAt? id with
    | some old =>
        obtain ⟨sameId, _⟩ := kept_identity transition already found
        rw [sameId, orderly.named id old already]
    | none =>
        rcases transition.entryAt? id with
          same | ⟨_, _, _, _, _, _, _, _, _, _, effect⟩
        · rw [same, already] at found
          cases found
        · rw [effect, already] at found
          obtain ⟨document, _, named, rfl⟩ := Store.effect_none found
          rw [Store.Entry.id_ofDocument, named]
  · intro id present
    cases already : before.store.entryAt? id with
    | some old =>
        exact (orderly.spent id (by simp [already])).preserved transition distinct
    | none =>
        rcases transition.entryAt? id with
          same | ⟨index, now, _, inserter, query, _, _, here, left, there, effect⟩
        · exact absurd (same.trans already) present
        · rw [effect, already] at present
          obtain ⟨entry, added⟩ := Option.ne_none_iff_exists'.1 present
          obtain ⟨document, rfl, sameId, _⟩ := Store.effect_none added
          obtain ⟨licence, custody, named⟩ := orderly.licensed index inserter here
          rw [left] at custody
          have generated : inserter.operation.fresh? = some id :=
            named id (by rw [custody.1.1, sameId])
          refine ⟨?_, ?_⟩
          · exact List.mem_filterMap.2 ⟨_, List.mem_of_getElem? there, generated⟩
          · intro position running atPosition
            by_cases same : position = index
            · -- The licence was given up with the insertion.
              subst same
              rw [there] at atPosition
              cases atPosition
              exact ⟨none, by simp, custody.2 _ trivial⟩
            · obtain ⟨other, otherCustody, otherNamed⟩ :=
                licensed position running atPosition
              refine ⟨other, ?_, otherCustody⟩
              intro licensedToo
              exact same (Shared.fresh_unique distinct atPosition there
                (otherNamed id licensedToo) generated)

/-! ## Whole runs -/

section Runs

variable {service : Service} {shared : Shared} {moves : List Move}
  {id : DocumentId}

theorem Orderly.after_run (orderly : Orderly shared)
    (distinct : (shared.run service moves).issued.Nodup) :
    Orderly (shared.run service moves) :=
  Shared.run_induction_distinct Orderly orderly moves distinct
    fun _ _ _ transition soFar before => before.preserved transition soFar

theorem orderly_reached (service : Service) (backend : Store.Backend)
    (distinct : (moves.filterMap Move.fresh?).Nodup) :
    Orderly (.reached service backend moves) := by
  apply (orderly_initial backend).after_run
  rw [Shared.issued_run]
  simpa [Shared.issued, Shared.initial] using distinct

/-- The document was removed for good. -/
structure Erased (shared : Shared) (id : DocumentId) : Prop where
  spent : Spent shared id
  absent : shared.store.entryAt? id = none

theorem Erased.preserved {before after : Shared} {move : Move}
    (erased : Erased before id)
    (transition : Shared.Transition service before move after)
    (distinct : after.issued.Nodup) : Erased after id :=
  ⟨erased.spent.preserved transition distinct,
    erased.spent.stays_absent transition erased.absent⟩

theorem Erased.after_run (erased : Erased shared id)
    (distinct : (shared.run service moves).issued.Nodup) :
    Erased (shared.run service moves) id :=
  Shared.run_induction_distinct (Erased · id) erased moves distinct
    fun _ _ _ transition soFar before => before.preserved transition soFar

/-- A document that was in the store with an identity is there with the same
identity or was removed for good. -/
structure Continues (old : Store.Entry) (id : DocumentId) (shared : Shared) :
    Prop where
  spent : Spent shared id
  identity : ∀ new, shared.store.entryAt? id = some new →
    new.owner = old.owner ∧ new.forkedFrom = old.forkedFrom

theorem Continues.preserved {old : Store.Entry} {before after : Shared}
    {move : Move} (continues : Continues old id before)
    (transition : Shared.Transition service before move after)
    (distinct : after.issued.Nodup) : Continues old id after := by
  refine ⟨continues.spent.preserved transition distinct, ?_⟩
  intro new left
  cases found : before.store.entryAt? id with
  | none =>
      rw [continues.spent.stays_absent transition found] at left
      cases left
  | some kept =>
      obtain ⟨_, sameOwner, sameOrigin⟩ := kept_identity transition found left
      obtain ⟨owner, origin⟩ := continues.identity kept found
      exact ⟨sameOwner.trans owner, sameOrigin.trans origin⟩

theorem Orderly.continues {old : Store.Entry} (orderly : Orderly shared)
    (found : shared.store.entryAt? id = some old)
    (distinct : (shared.run service moves).issued.Nodup) :
    Continues old id (shared.run service moves) := by
  refine Shared.run_induction_distinct (Continues old id) ?_ moves distinct
    fun _ _ _ transition soFar before => before.preserved transition soFar
  refine ⟨orderly.spent id (by simp [found]), ?_⟩
  intro new there
  rw [found] at there
  cases there
  exact ⟨rfl, rfl⟩

end Runs

end BlockMail.Service
