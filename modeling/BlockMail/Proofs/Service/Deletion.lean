import BlockMail.Proofs.Service.Lifetime

/-!
# Deletions under concurrent requests

A deletion is a conditional removal and, when nothing was removed, a look-up that
says why. Other requests may come between the two. Still, of all deletions of one
document at most one succeeds, and the owner of a document is never told that it
is somebody else's.
-/

set_option autoImplicit false

namespace BlockMail.Service

/-- How far a deletion got. -/
inductive DeletionStage where
  | untried
  | removed
  | kept
  | found
  | failed

/-- A deletion tries to remove the document, and looks it up when it was kept. -/
def deletion (id : DocumentId) (requester : UserId) : Protocol DeletionStage where
  permits stage call :=
    match stage with
    | .untried => call = .deleteOwned id requester
    | .kept => call = .get id
    | .removed | .found | .failed => False
  delivers _ := False
  expects _ _ _ := True
  advance stage call reply :=
    match stage, call, reply with
    | .untried, .deleteOwned _ _, .ok affected =>
        if affected = 1 then .removed else .kept
    | .kept, .get _, .ok (some _) => .found
    | _, _, _ => .failed

/-- What the result of a deletion says about the stage at which it ended. -/
structure DeletionEnds (stage : DeletionStage)
    (outcome : Except ServiceError Answer) : Prop where
  succeeded : ∀ answer, outcome = .ok answer → stage = .removed
  forbidden : ∀ other, outcome = .error (.forbidden other) → stage = .found

theorem DeletionEnds.of_error {stage : DeletionStage} {cause : ServiceError}
    (reason : ∀ other, cause = .forbidden other → stage = .found) :
    DeletionEnds stage (.error cause) := by
  refine ⟨?_, ?_⟩
  · intro answer ended
    cases ended
  · intro other ended
    cases ended
    exact reason other rfl

theorem DeletionEnds.of_removed (answer : Answer) :
    DeletionEnds .removed (.ok answer) := by
  refine ⟨fun _ _ => rfl, ?_⟩
  intro other ended
  cases ended

def InDeletion (id : DocumentId) (requester : UserId) (stage : DeletionStage)
    (program : Program (Except ServiceError Answer)) : Prop :=
  program.Follows (deletion id requester) DeletionEnds stage

theorem program_inDeletion (service : Service) (id : DocumentId)
    (requester : UserId) :
    InDeletion id requester .untried
      ((Operation.delete id).program service requester) := by
  apply Request.Follows.bind
  apply follows_delete
  · rfl
  · intro failure
    apply DeletionEnds.of_error
    intro other same
    cases same
  · rintro affected rfl
    exact .of_removed .deleted
  · intro affected other
    simp only [deletion, other, ↓reduceIte, true_and]
    intro reply
    apply DeletionEnds.of_error
    match reply with
    | .ok (some record) => exact fun _ _ => rfl
    | .ok none | .error failure =>
        intro other same
        cases same

/-- The three things that the next call of a deletion comes to. -/
inductive DeletionStep (id : DocumentId) (requester : UserId) (store after : Store) :
    DeletionStage → DeletionStage → Prop where
  | removed : store.owns requester id = true → after.entryAt? id = none →
      DeletionStep id requester store after .untried .removed
  | kept : store.owns requester id = false →
      DeletionStep id requester store after .untried .kept
  | found : store.entryAt? id ≠ none →
      DeletionStep id requester store after .kept .found
  | failed : DeletionStep id requester store after .kept .failed

theorem InDeletion.call {id : DocumentId} {requester : UserId}
    {stage : DeletionStage} {query : Store.Call}
    {next : Except Store.Failure query.Reply →
      Program (Except ServiceError Answer)}
    (follows : InDeletion id requester stage (.call query next))
    (store : Store) (now : Time.Instant) :
    ∃ later, InDeletion id requester later (next (store.perform now query).2) ∧
      DeletionStep id requester store (store.perform now query).1 stage later := by
  refine ⟨_, follows.2 _ trivial, ?_⟩
  have permitted := follows.1
  cases stage with
  | removed | found | failed => exact permitted.elim
  | untried =>
      cases (permitted : query = .deleteOwned id requester)
      simp only [deletion, Store.reply_deleteOwned]
      cases owned : store.owns requester id with
      | false => exact .kept owned
      | true =>
          refine .removed owned ?_
          obtain ⟨entry, found, owner⟩ := Store.owns_iff.1 owned
          simp [Store.entryAt?_perform, Store.Call.effect, found, owner,
            Option.filter_some]
  | kept =>
      cases (permitted : query = .get id)
      simp only [Store.perform, Store.get?_eq, deletion]
      cases found : store.entryAt? id with
      | none => exact .failed
      | some entry =>
          dsimp only
          cases entry.read with
          | error failure => exact .failed
          | ok record => exact .found (by simp [found])

/-! ## One deletion succeeds -/

def Running.Succeeded (running : Running) : Prop :=
  ∃ answer, running.rest = .finish (.ok answer)

/-- Every deletion is at some stage, and what a deletion removed is gone. -/
def Staged (shared : Shared) : Prop :=
  ∀ (position : Nat) (running : Running) (id : DocumentId),
    shared.requests[position]? = some running →
    running.operation = .delete id →
    ∃ stage, InDeletion id running.requester stage running.rest ∧
      (stage = .removed → Erased shared id)

theorem Staged.erased {shared : Shared} (staged : Staged shared) {position : Nat}
    {running : Running} {id : DocumentId}
    (there : shared.requests[position]? = some running)
    (deletes : running.operation = .delete id)
    (succeeded : running.Succeeded) : Erased shared id := by
  obtain ⟨stage, follows, gone⟩ := staged position running id there deletes
  obtain ⟨answer, left⟩ := succeeded
  rw [left] at follows
  exact gone (follows.succeeded answer rfl)

section Preservation

variable {service : Service} {before after : Shared} {move : Move}

theorem Staged.preserved (staged : Staged before) (orderly : Orderly before)
    (transition : Shared.Transition service before move after)
    (distinct : after.issued.Nodup) : Staged after := by
  intro position running id there deletes
  cases transition.origin there with
  | started =>
      cases deletes
      exact ⟨.untried, program_inDeletion service id _, fun removed => by cases removed⟩
  | waiting here =>
      obtain ⟨stage, follows, gone⟩ := staged position running id here deletes
      exact ⟨stage, follows,
        fun removed => (gone removed).preserved transition distinct⟩
  | called here left store =>
      obtain ⟨stage, follows, _⟩ := staged position _ id here deletes
      rw [left] at follows
      obtain ⟨later, follows, step⟩ := follows.call before.store _
      refine ⟨later, follows, ?_⟩
      rintro rfl
      cases step with
      | removed owned absent =>
          obtain ⟨entry, found, _⟩ := Store.owns_iff.1 owned
          refine ⟨(orderly.spent id (by simp [found])).preserved transition
            distinct, ?_⟩
          rw [store]
          exact absent
  | delivered here left =>
      obtain ⟨stage, follows, _⟩ := staged position _ id here deletes
      rw [left] at follows
      exact follows.1.elim

/-- A deletion that has succeeded had succeeded before, or it removed the document
with the last move. -/
theorem Staged.succeeded_cases (staged : Staged before)
    (transition : Shared.Transition service before move after)
    {position : Nat} {running : Running} {id : DocumentId}
    (there : after.requests[position]? = some running)
    (deletes : running.operation = .delete id) (succeeded : running.Succeeded) :
    before.requests[position]? = some running ∨
      (∃ now handover, move = .advance position now handover) ∧
        before.store.entryAt? id ≠ none := by
  obtain ⟨answer, ended⟩ := succeeded
  cases transition.origin there with
  | waiting here => exact .inl here
  | started =>
      cases deletes
      have follows := program_inDeletion service id ‹UserId›
      simp only at ended
      rw [ended] at follows
      cases follows.succeeded answer rfl
  | called here left =>
      obtain ⟨stage, follows, _⟩ := staged position _ id here deletes
      rw [left] at follows
      obtain ⟨later, follows, step⟩ := follows.call before.store _
      simp only at ended
      rw [ended] at follows
      cases follows.succeeded answer rfl
      cases step with
      | removed owned _ =>
          obtain ⟨entry, found, _⟩ := Store.owns_iff.1 owned
          exact .inr ⟨⟨_, _, rfl⟩, by simp [found]⟩
  | delivered here left =>
      obtain ⟨stage, follows, _⟩ := staged position _ id here deletes
      rw [left] at follows
      exact follows.1.elim

/-- Of the deletions of one document at most one has succeeded. -/
def OneSucceeds (shared : Shared) : Prop :=
  ∀ (first second : Nat) (left right : Running) (id : DocumentId),
    shared.requests[first]? = some left → shared.requests[second]? = some right →
    left.operation = .delete id → right.operation = .delete id →
    left.Succeeded → right.Succeeded → first = second

theorem OneSucceeds.preserved (single : OneSucceeds before)
    (staged : Staged before)
    (transition : Shared.Transition service before move after) :
    OneSucceeds after := by
  intro first second left right id atFirst atSecond leftDeletes rightDeletes
    leftSucceeded rightSucceeded
  rcases staged.succeeded_cases transition atFirst leftDeletes leftSucceeded with
    leftBefore | ⟨⟨_, _, leftMoved⟩, leftPresent⟩
  · rcases staged.succeeded_cases transition atSecond rightDeletes rightSucceeded
      with rightBefore | ⟨_, present⟩
    · exact single first second left right id leftBefore rightBefore leftDeletes
        rightDeletes leftSucceeded rightSucceeded
    · exact absurd (staged.erased leftBefore leftDeletes leftSucceeded).absent present
  · rcases staged.succeeded_cases transition atSecond rightDeletes rightSucceeded
      with rightBefore | ⟨⟨_, _, rightMoved⟩, _⟩
    · exact absurd (staged.erased rightBefore rightDeletes rightSucceeded).absent
        leftPresent
    · rw [leftMoved] at rightMoved
      cases rightMoved
      rfl

/-! ## Owners are not refused -/

/-- A deletion, by the owner, of a document that was in the store has not found
the document after failing to remove it. -/
structure Undisputed (old : Store.Entry) (id : DocumentId) (position : Nat)
    (shared : Shared) : Prop where
  continues : Continues old id shared
  request : ∃ running, shared.requests[position]? = some running ∧
    running.requester = old.owner ∧ running.operation = .delete id ∧
    ∃ stage, InDeletion id old.owner stage running.rest ∧ stage ≠ .found ∧
      (stage = .kept → shared.store.entryAt? id = none)

theorem Continues.absent_of_not_owns {old : Store.Entry} {id : DocumentId}
    {shared : Shared} (continues : Continues old id shared)
    (foreign : shared.store.owns old.owner id = false) :
    shared.store.entryAt? id = none := by
  cases found : shared.store.entryAt? id with
  | none => rfl
  | some new =>
      have owned := Store.owns_iff.2 ⟨new, found, (continues.identity new found).1⟩
      rw [foreign] at owned
      cases owned

theorem Undisputed.preserved {old : Store.Entry} {id : DocumentId} {position : Nat}
    (undisputed : Undisputed old id position before)
    (transition : Shared.Transition service before move after)
    (distinct : after.issued.Nodup) : Undisputed old id position after := by
  have continues := undisputed.continues.preserved transition distinct
  have staysAbsent := undisputed.continues.spent.stays_absent transition
  obtain ⟨running, here, owned, deletes, stage, follows, unfound, gone⟩ :=
    undisputed.request
  obtain ⟨rest, there, progress⟩ := transition.progress here
  refine ⟨continues, _, there, owned, deletes, ?_⟩
  cases progress with
  | waits => exact ⟨stage, follows, unfound, fun kept => staysAbsent (gone kept)⟩
  | calls left =>
      rw [left] at follows
      obtain ⟨later, follows, step⟩ := follows.call before.store _
      refine ⟨later, follows, ?_⟩
      cases step with
      | removed => exact ⟨by simp, fun kept => by cases kept⟩
      | kept foreign =>
          exact ⟨by simp,
            fun _ => staysAbsent (undisputed.continues.absent_of_not_owns foreign)⟩
      | found present => exact absurd (gone rfl) present
      | failed => exact ⟨by simp, fun kept => by cases kept⟩
  | delivers left =>
      rw [left] at follows
      exact follows.1.elim

end Preservation

/-! ## Runs from an empty store -/

/-- What holds of templates however requests interleave in a run. -/
structure Lifetimes (service : Service) (backend : Store.Backend)
    (moves : List Move) : Prop where
  /-- A template keeps its identity from its insertion to its removal. -/
  identity : ∀ (earlier between later : List Move) (id : DocumentId)
    (old new : Store.Entry), moves = earlier ++ between ++ later →
    (Shared.reached service backend earlier).store.entryAt? id = some old →
    (Shared.reached service backend (earlier ++ between)).store.entryAt? id =
      some new →
    old.id = id ∧ new.id = id ∧ new.owner = old.owner ∧
      new.forkedFrom = old.forkedFrom
  /-- Only a call of a request of its owner changes or removes a template. -/
  ownership : ∀ (earlier later : List Move) (move : Move) (id : DocumentId)
    (entry : Store.Entry), moves = earlier ++ move :: later →
    (Shared.reached service backend earlier).store.entryAt? id = some entry →
    (Shared.reached service backend (earlier ++ [move])).store.entryAt? id ≠
      some entry →
    ∃ index now handover running, move = .advance index now handover ∧
      (Shared.reached service backend earlier).requests[index]? = some running ∧
      running.requester = entry.owner
  /-- A template that was removed never appears again. -/
  removal : ∀ (earlier between later : List Move) (id : DocumentId)
    (old : Store.Entry), moves = earlier ++ between ++ later →
    (Shared.reached service backend earlier).store.entryAt? id = some old →
    (Shared.reached service backend (earlier ++ between)).store.entryAt? id = none →
    (Shared.reached service backend moves).store.entryAt? id = none
  /-- Two deletions of one template that have succeeded are one. -/
  deletion : ∀ (first second : Nat) (left right : Running) (id : DocumentId),
    (Shared.reached service backend moves).requests[first]? = some left →
    (Shared.reached service backend moves).requests[second]? = some right →
    left.operation = .delete id → right.operation = .delete id →
    left.Succeeded → right.Succeeded → first = second
  /-- A deletion that the owner began after the insertion does not end as
  forbidden. -/
  undisputed : ∀ (earlier between later : List Move) (id : DocumentId)
    (old : Store.Entry),
    moves = earlier ++ between ++ .start old.owner (.delete id) :: later →
    (Shared.reached service backend earlier).store.entryAt? id = some old →
    ∃ running,
      (Shared.reached service backend moves).requests[
        (Shared.reached service backend (earlier ++ between)).requests.length]? =
          some running ∧
      running.requester = old.owner ∧ running.operation = .delete id ∧
      ∀ other, running.rest ≠ .finish (.error (.forbidden other))

section Runs

variable {service : Service} {backend : Store.Backend} {moves : List Move}

/-- Where no generated identifier comes twice, neither does one in the first part
of the run. -/
theorem distinct_earlier {earlier later : List Move}
    (distinct : ((earlier ++ later).filterMap Move.fresh?).Nodup) :
    (earlier.filterMap Move.fresh?).Nodup := by
  rw [List.filterMap_append, List.nodup_append] at distinct
  exact distinct.1

theorem issued_reached_nodup (service : Service) (backend : Store.Backend)
    (distinct : (moves.filterMap Move.fresh?).Nodup) :
    (Shared.reached service backend moves).issued.Nodup := by
  rw [Shared.reached, Shared.issued_run]
  simpa [Shared.issued, Shared.initial] using distinct

theorem deletions_reached (distinct : (moves.filterMap Move.fresh?).Nodup) :
    Orderly (.reached service backend moves) ∧
      Staged (.reached service backend moves) ∧
      OneSucceeds (.reached service backend moves) := by
  refine Shared.run_induction_distinct
    (fun shared => Orderly shared ∧ Staged shared ∧ OneSucceeds shared) ?_ moves
    (issued_reached_nodup service backend distinct) ?_
  · refine ⟨orderly_initial backend, ?_, ?_⟩
    · intro position running id there
      simp [Shared.initial] at there
    · intro first second left right id atFirst
      simp [Shared.initial] at atFirst
  · intro before move after transition soFar holds
    obtain ⟨orderly, staged, single⟩ := holds
    exact ⟨orderly.preserved transition soFar,
      staged.preserved orderly transition soFar,
      single.preserved staged transition⟩

theorem continues_reached {earlier between : List Move} {id : DocumentId}
    {old : Store.Entry}
    (distinct : ((earlier ++ between).filterMap Move.fresh?).Nodup)
    (found : (Shared.reached service backend earlier).store.entryAt? id = some old) :
    Continues old id (.reached service backend (earlier ++ between)) := by
  have orderly := orderly_reached service backend (distinct_earlier distinct)
  rw [Shared.reached_append]
  apply orderly.continues found
  rw [← Shared.reached_append]
  exact issued_reached_nodup service backend distinct

/-- What was removed does not come back. -/
theorem gone_reached {earlier between later : List Move} {id : DocumentId}
    {old : Store.Entry}
    (distinct : ((earlier ++ between ++ later).filterMap Move.fresh?).Nodup)
    (found : (Shared.reached service backend earlier).store.entryAt? id = some old)
    (removed : (Shared.reached service backend (earlier ++ between)).store.entryAt? id = none) :
    (Shared.reached service backend (earlier ++ between ++ later)).store.entryAt? id = none := by
  have continues := continues_reached (distinct_earlier distinct) found
  have erased : Erased _ id := ⟨continues.spent, removed⟩
  rw [Shared.reached_append]
  refine (erased.after_run ?_).absent
  rw [← Shared.reached_append]
  exact issued_reached_nodup service backend distinct

theorem Continues.undisputed {shared : Shared} {id : DocumentId}
    {old : Store.Entry} (continues : Continues old id shared)
    (distinct : (shared.step service (.start old.owner (.delete id))).issued.Nodup) :
    Undisputed old id shared.requests.length
      (shared.step service (.start old.owner (.delete id))) := by
  refine ⟨continues.preserved (Shared.step_transition service shared _) distinct,
    ⟨old.owner, .delete id, (Operation.delete id).program service old.owner⟩, ?_,
    rfl, rfl, .untried, program_inDeletion service id old.owner, by simp,
    fun kept => by cases kept⟩
  simp [Shared.step]

end Runs

/-- Templates have such lifetimes in every run in which no generated identifier
comes twice. -/
theorem interleaved_lifetimes (service : Service) (backend : Store.Backend)
    (moves : List Move) (distinct : (moves.filterMap Move.fresh?).Nodup) :
    Lifetimes service backend moves := by
  refine ⟨?_, ?_, ?_, (deletions_reached distinct).2.2, ?_⟩
  · rintro earlier between later id old new rfl found left
    have soFar := distinct_earlier distinct
    have before := orderly_reached service backend (distinct_earlier soFar)
    have after := orderly_reached service backend soFar
    exact ⟨before.named id old found, after.named id new left,
      (continues_reached soFar found).identity new left⟩
  · rintro earlier later move id entry rfl found changed
    have orderly := orderly_reached service backend (distinct_earlier distinct)
    rw [Shared.reached_append] at changed
    exact orderly.changed_by_owner (Shared.step_transition service _ move) found
      changed
  · rintro earlier between later id old rfl found removed
    exact gone_reached distinct found removed
  · rintro earlier between later id old rfl found
    rw [List.append_cons] at distinct ⊢
    have begun := distinct_earlier distinct
    have continues := continues_reached (distinct_earlier begun) found
    have soFar := issued_reached_nodup service backend begun
    have whole := issued_reached_nodup service backend distinct
    rw [Shared.reached_append] at soFar
    rw [Shared.reached_append, Shared.reached_append] at whole ⊢
    have start := continues.undisputed soFar
    obtain ⟨_, running, there, owned, deletes, stage, follows, unfound, _⟩ :=
      Shared.run_induction_distinct (Undisputed old id _) start later whole
        fun _ _ _ transition soFar before => before.preserved transition soFar
    refine ⟨running, there, owned, deletes, ?_⟩
    intro other ended
    rw [ended] at follows
    exact unfound (follows.forbidden other rfl)

/-- A user creates a template and begins to delete it twice, while another user
tries to delete it too. -/
def racingDeletions : List Move :=
  let now : Time.Instant := ⟨⟨2024, 5, 1, by decide⟩, 720, 0, 0, by decide⟩
  let owner : UserId := ⟨"ada"⟩
  let id : DocumentId := ⟨"d1"⟩
  let input : NewDocument := ⟨some "Welcome", none, none, none, none, none⟩
  let next (index : Nat) : Move := .advance index now (.error (.failed ""))
  [.start owner (.create input id now), next 0, .start owner (.delete id),
    .start ⟨"bob"⟩ (.delete id), .start owner (.delete id), next 2, next 3, next 1,
    next 2, next 1]

theorem lifetimes_of_racing_deletions :
    let service : Service := ⟨"", .empty⟩
    (racingDeletions.filterMap Move.fresh?).Nodup ∧
      (Shared.reached service .memory (racingDeletions.take 2)).store.owns
        ⟨"ada"⟩ ⟨"d1"⟩ = true ∧
      (Shared.reached service .memory racingDeletions).store.owns
        ⟨"ada"⟩ ⟨"d1"⟩ = false ∧
      Lifetimes service .memory racingDeletions := by
  have distinct : (racingDeletions.filterMap Move.fresh?).Nodup := by decide
  exact ⟨distinct, by decide, by decide, interleaved_lifetimes _ _ _ distinct⟩

end BlockMail.Service
