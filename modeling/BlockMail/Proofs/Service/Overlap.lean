import Mathlib.Data.List.Induction
import BlockMail.Proofs.Service.Save
import BlockMail.Proofs.Service.Schedule
import BlockMail.Proofs.Store.Field

/-!
# Overlapping saves

Any number of saves of one document, by its owner and by others, whose calls fall between
each other. An update in place writes the fields of its patch and no others, so no field
is lost to a save that read the document earlier. A fork is made of the one record that
its save read, whatever happened to the document since.
-/

set_option autoImplicit false

namespace BlockMail.Service

open Store

/-! ## What a save derives from what it read -/

inductive SaveStage where
  | unread
  | read (record : DocumentRecord)
  | past

/-- The calls that a save makes of a record that it read. -/
inductive Derived (requester : UserId) (id : DocumentId) (patch : DocumentPatch)
    (fresh : DocumentId) (made : Time.Instant) (record : DocumentRecord) : Call → Prop where
  | inPlace {update : FieldUpdate} :
      patch.toUpdate = .ok update → record.owner = requester →
      Derived requester id patch fresh made record (.updateOwned id requester update)
  | fork {update : FieldUpdate} {blocks : List Block} :
      patch.toUpdate = .ok update → record.owner ≠ requester →
      record.visibility = .everyone → blocksOver record update = .ok blocks →
      Derived requester id patch fresh made record
        (.insert (forkWith record id update blocks requester fresh made))

/-- A save reads its document once and derives its one write from that record. Other
operations update no document and insert no fork. -/
def conduct (requester : UserId) : Operation → Protocol SaveStage
  | .save id patch fresh made =>
      { permits := fun stage call =>
          match stage with
          | .unread => call = .get id
          | .read record => Derived requester id patch fresh made record call
          | .past => False
        delivers := fun _ => False
        expects := fun _ _ _ => True
        advance := fun stage call reply =>
          match stage, call, reply with
          | .unread, .get _, .ok (some record) => .read record
          | _, _, _ => .past }
  | _ =>
      { permits := fun _ call =>
          match call with
          | .updateOwned _ _ _ => False
          | .insert document => document.forkedFrom = none
          | .get _ | .list _ | .deleteOwned _ _ => True
        delivers := fun _ => True
        expects := fun _ _ _ => True
        advance := fun stage _ _ => stage }

def InConduct (requester : UserId) (operation : Operation) (stage : SaveStage)
    (program : Program (Except ServiceError Answer)) : Prop :=
  program.Follows (conduct requester operation) (fun _ _ => True) stage

theorem program_inConduct (service : Service) (requester : UserId) (operation : Operation) :
    InConduct requester operation .unread (operation.program service requester) := by
  cases operation with
  | save id patch fresh made =>
      apply Request.Follows.bind
      apply follows_save
      · intro _ outcome _
        cases outcome <;> trivial
      · intro _ _ _ _ _
        trivial
      · rfl
      · intro record update _ accepted owned
        exact .inPlace accepted owned
      · intro record update blocks _ accepted foreign shown chosen
        exact .fork accepted foreign shown chosen
  | create input fresh made =>
      apply Request.Follows.bind
      apply follows_create
      · intro _ outcome _
        cases outcome <;> trivial
      · intro document accepted
        exact NewDocument.forkedFrom_of_toDocument accepted
  | delete id =>
      apply Request.Follows.bind
      apply follows_delete
      · trivial
      · intro _
        trivial
      · intro _ _
        trivial
      · intro _ _
        exact ⟨trivial, fun _ => trivial⟩
  | fetch | list | categories | preview | send =>
      refine Operation.follows_of_reads trivial ?_ (fun _ _ => trivial) fun _ _ _ _ _ => trivial
      exact ⟨fun _ => trivial, fun _ => trivial, fun _ _ => rfl, fun _ _ => rfl, trivial⟩

namespace Shared

/-- A store at which no request was begun. -/
def idle (store : Store) : Shared := ⟨store, []⟩

theorem run_concat (service : Service) (shared : Shared) (past : List Move) (move : Move) :
    shared.run service (past ++ [move]) = (shared.run service past).step service move := by
  rw [run_append]
  rfl

/-! ## Saves remember what they read -/

/-- At an earlier move of its own, a save of a document looked the document up, and was
given a record. -/
def Recalls (service : Service) (shared : Shared) (past : List Move) (position : Nat)
    (running : Running) (id : DocumentId) (record : DocumentRecord) : Prop :=
  ∃ earlier between now handover next,
    past = earlier ++ .advance position now handover :: between ∧
    (shared.run service earlier).requests[position]? =
      some { running with rest := .call (.get id) next } ∧
    (shared.run service earlier).store.get? id = .ok (some record)

/-- Every request keeps to the conduct of its operation, and what a save is said to have
read it did read. -/
def Conducted (service : Service) (shared : Shared) (past : List Move) : Prop :=
  ∀ (position : Nat) (running : Running),
    (shared.run service past).requests[position]? = some running →
    ∃ stage, InConduct running.requester running.operation stage running.rest ∧
      ∀ id patch fresh made record,
        running.operation = .save id patch fresh made → stage = .read record →
        shared.Recalls service past position running id record

section History

variable {service : Service} {shared : Shared} {past : List Move} {move : Move}
  {position : Nat} {running : Running} {id : DocumentId} {record : DocumentRecord}

theorem Recalls.later (recalls : shared.Recalls service past position running id record)
    (rest : Program (Except ServiceError Answer)) :
    shared.Recalls service (past ++ [move]) position { running with rest := rest } id
      record := by
  obtain ⟨earlier, between, now, handover, next, rfl, there, given⟩ := recalls
  exact ⟨earlier, between ++ [move], now, handover, next, by simp, there, given⟩

theorem Conducted.step (conducted : shared.Conducted service past) :
    shared.Conducted service (past ++ [move]) := by
  intro position running there
  rw [run_concat] at there
  cases (step_transition service _ move).origin there with
  | started =>
      refine ⟨.unread, program_inConduct service _ _, ?_⟩
      intro id patch fresh made record _ reads
      cases reads
  | waiting here =>
      obtain ⟨stage, follows, recalls⟩ := conducted position running here
      refine ⟨stage, follows, ?_⟩
      intro id patch fresh made record saves reads
      exact (recalls id patch fresh made record saves reads).later running.rest
  | called here left store =>
      rename_i now handover caller query next
      obtain ⟨requester, operation, rest⟩ := caller
      cases (left : rest = _)
      obtain ⟨stage, follows, recalls⟩ := conducted position _ here
      have expected : (conduct requester operation).expects stage query
          ((shared.run service past).store.perform now query).2 := by
        cases operation <;> trivial
      refine ⟨_, follows.2 _ expected, ?_⟩
      intro id patch fresh made record saves reads
      cases (saves : operation = _)
      cases stage with
      | past => exact follows.1.elim
      | read earlier => cases reads
      | unread =>
          -- The look-up itself: the record is that of the state before this move.
          cases (follows.1 : query = .get id)
          cases answered : (shared.run service past).store.get? id with
          | error failure => simp [conduct, Store.perform, answered] at reads
          | ok found =>
              cases found with
              | none => simp [conduct, Store.perform, answered] at reads
              | some given =>
                  simp only [conduct, Store.perform, answered, SaveStage.read.injEq] at reads
                  cases reads
                  exact ⟨past, [], now, handover, next, rfl, here, answered⟩
  | delivered here left =>
      obtain ⟨stage, follows, recalls⟩ := conducted position _ here
      unfold InConduct at follows
      rw [left] at follows
      refine ⟨stage, follows.2 _, ?_⟩
      intro id patch fresh made record saves reads
      exact (recalls id patch fresh made record saves reads).later _

theorem conducted_run (service : Service) (store : Store) (past : List Move) :
    (idle store).Conducted service past := by
  induction past using List.reverseRecOn with
  | nil =>
      intro position running there
      simp [run, idle] at there
  | append_singleton past move ih => exact ih.step

end History

/-! ## What updates leave -/

/-- The update that a move makes of a document: that of a conditional call by the owner. -/
def applied (shared : Shared) (id : DocumentId) : Move → Option FieldUpdate
  | .start _ _ => none
  | .advance index _ _ =>
      match shared.requests[index]? with
      | some ⟨_, _, .call (.updateOwned key owner update) _⟩ =>
          if key = id ∧ shared.store.owns owner id then some update else none
      | _ => none

/-- The updates that a run makes of a document, in order. -/
def updates (service : Service) (id : DocumentId) (shared : Shared) :
    List Move → List FieldUpdate
  | [] => []
  | move :: rest =>
      (shared.applied id move).toList ++ (shared.step service move).updates service id rest

section Updates

variable {service : Service} {shared : Shared} {id : DocumentId} {old new : Entry}

theorem applied_eq_some {move : Move} {update : FieldUpdate}
    (applies : shared.applied id move = some update) :
    ∃ index now handover requester operation owner next,
      move = .advance index now handover ∧
      shared.requests[index]? =
        some ⟨requester, operation, .call (.updateOwned id owner update) next⟩ ∧
      shared.store.owns owner id = true := by
  cases move with
  | start => cases applies
  | advance index now handover =>
      simp only [applied] at applies
      split at applies
      · rename_i requester operation key owner _ next here
        split at applies
        · rename_i affects
          obtain ⟨rfl, owns⟩ := affects
          cases applies
          exact ⟨index, now, handover, requester, operation, owner, next, rfl, here, owns⟩
        · cases applies
      · cases applies

/-- What one move leaves in a field of a document. -/
theorem kept_step (field : Field) (move : Move) (found : shared.store.entryAt? id = some old)
    (left : (shared.step service move).store.entryAt? id = some new) :
    field.kept new =
      field.after shared.store.backend (shared.applied id move).toList (field.kept old) := by
  have unchanged (same : (some old : Option Entry) = some new) :
      field.kept new = field.after shared.store.backend [] (field.kept old) := by
    cases same
    rfl
  cases move with
  | start requester operation => exact unchanged (found.symm.trans left)
  | advance index now handover =>
      simp only [step, applied] at left ⊢
      cases here : shared.requests[index]? with
      | none =>
          rw [here] at left
          exact unchanged (found.symm.trans left)
      | some running =>
          obtain ⟨requester, operation, rest⟩ := running
          rw [here] at left
          cases rest with
          | finish result => exact unchanged (found.symm.trans left)
          | deliver mail next => exact unchanged (found.symm.trans left)
          | call query next =>
              simp only [entryAt?_perform, found] at left
              cases query with
              | get key => exact unchanged left
              | list reader => exact unchanged left
              | insert document =>
                  simp only [Call.effect, Option.getD_some, ite_self] at left
                  exact unchanged left
              | deleteOwned key owner =>
                  simp only [Call.effect] at left
                  split at left
                  · exact unchanged (Option.filter_eq_some_iff.1 left).1
                  · exact unchanged left
              | updateOwned key owner update =>
                  simp only [Call.effect] at left
                  by_cases same : id = key
                  · subst same
                    by_cases owned : old.owner = owner
                    · have owns : shared.store.owns owner id = true :=
                        owns_iff.2 ⟨old, found, owned⟩
                      simp only [↓reduceIte, Option.map_some, owned, Option.some.injEq] at left
                      simp only [owns, and_self, ↓reduceIte, Option.toList_some]
                      rw [← left, Field.after_singleton, Field.kept_updated,
                        backend_of_entryAt? found]
                    · have foreign : ¬shared.store.owns owner id = true := by
                        simp [owns, found, owned]
                      simp only [↓reduceIte, Option.map_some, owned] at left
                      simp only [foreign]
                      exact unchanged left
                  · have other : ¬key = id := fun equal => same equal.symm
                    simp only [same, ↓reduceIte] at left
                    simp only [other, false_and]
                    exact unchanged left

/-- What a run leaves in a field of a document that is there all the while. -/
theorem kept_run (field : Field) (moves : List Move)
    (stays : ∀ count ≤ moves.length,
      (shared.run service (moves.take count)).store.entryAt? id ≠ none)
    (found : shared.store.entryAt? id = some old)
    (left : (shared.run service moves).store.entryAt? id = some new) :
    field.kept new =
      field.after shared.store.backend (shared.updates service id moves)
        (field.kept old) := by
  induction moves generalizing shared old with
  | nil =>
      cases found.symm.trans left
      rfl
  | cons move rest ih =>
      have transition := step_transition service shared move
      obtain ⟨between, there⟩ := Option.ne_none_iff_exists'.1 (stays 1 (by simp))
      have remains : ∀ count ≤ rest.length,
          ((shared.step service move).run service (rest.take count)).store.entryAt? id ≠
            none :=
        fun count short => stays (count + 1) (Nat.succ_le_succ short)
      have later := ih remains there left
      rw [later, transition.backend, kept_step field move found there, updates,
        Field.after_append]

end Updates

end Shared

/-! ## Nothing is lost -/

open Shared

/-- A copy is a patch over one record: the document as the save of the patch read it, when
it was public. -/
structure ForkOf (service : Service) (store : Store) (earlier : List Move) (index : Nat)
    (running : Running) (id : DocumentId) (patch : DocumentPatch) (fresh : DocumentId)
    (made : Time.Instant) (copy : Entry) (record : DocumentRecord) : Prop where
  recalls : (idle store).Recalls service earlier index running id record
  shown : record.visibility = .everyone
  foreign : record.owner ≠ running.requester
  forked : Forked patch record id fresh running.requester made copy

/-- What holds of saves of one document, however their calls fall between each other. -/
structure NothingLost (service : Service) (store : Store) (id : DocumentId)
    (moves : List Move) (old new : Entry) : Prop where
  /-- Every field ends with the value of the last update that carried it, or as it was. -/
  fields : ∀ field : Field, field.kept new =
    ((((idle store).updates service id moves).filterMap
      (field.set? store.backend)).getLast?).getD (field.kept old)
  /-- A field that one update alone carries has its value, whenever the others came. -/
  disjoint : ∀ (field : Field) (update : FieldUpdate) (value : field.Value),
    update ∈ (idle store).updates service id moves →
    field.set? store.backend update = some value →
    (∀ other ∈ (idle store).updates service id moves, other ≠ update →
      field.set? store.backend other = none) →
    field.kept new = value
  /-- Every update is the patch of a save by the owner. -/
  saves : ∀ (earlier later : List Move) (move : Move) (update : FieldUpdate),
    moves = earlier ++ move :: later →
    ((idle store).run service earlier).applied id move = some update →
    ∃ index now handover running patch fresh made, move = .advance index now handover ∧
      ((idle store).run service earlier).requests[index]? = some running ∧
      running.operation = .save id patch fresh made ∧ running.requester = old.owner ∧
      patch.toUpdate = .ok update
  /-- Every fork that appears is a patch over the one record that its save read. -/
  forks : ∀ (earlier later : List Move) (move : Move) (fresh : DocumentId) (copy : Entry),
    moves = earlier ++ move :: later →
    ((idle store).run service earlier).store.entryAt? fresh = none →
    ((idle store).run service (earlier ++ [move])).store.entryAt? fresh = some copy →
    copy.forkedFrom = some id →
    ∃ index now handover running patch made record, move = .advance index now handover ∧
      ((idle store).run service earlier).requests[index]? = some running ∧
      running.operation = .save id patch fresh made ∧
      ForkOf service store earlier index running id patch fresh made copy record

section Runs

variable {service : Service} {store : Store} {earlier : List Move} {id : DocumentId}

theorem save_of_applied {move : Move} {update : FieldUpdate}
    (applies : ((idle store).run service earlier).applied id move = some update) :
    ∃ index now handover running patch fresh made, move = .advance index now handover ∧
      ((idle store).run service earlier).requests[index]? = some running ∧
      ((idle store).run service earlier).store.owns running.requester id = true ∧
      running.operation = .save id patch fresh made ∧ patch.toUpdate = .ok update := by
  obtain ⟨index, now, handover, requester, operation, owner, next, moved, here, owns⟩ :=
    applied_eq_some applies
  obtain ⟨stage, follows, _⟩ := conducted_run service store earlier index _ here
  cases operation with
  | save own patch fresh made =>
      cases stage with
      | unread => cases (follows.1 : Call.updateOwned id owner update = .get own)
      | past => exact follows.1.elim
      | read record =>
          have derived : Derived requester own patch fresh made record
            (.updateOwned id owner update) := follows.1
          cases derived with
          | inPlace accepted _ =>
              exact ⟨index, now, handover, _, patch, fresh, made, moved, here, owns, rfl,
                accepted⟩
  | create | delete | fetch | list | categories | preview | send =>
      exact follows.1.elim

theorem forkOf_appeared {move : Move} {fresh : DocumentId} {copy : Entry}
    (absent : ((idle store).run service earlier).store.entryAt? fresh = none)
    (appears : ((idle store).run service (earlier ++ [move])).store.entryAt? fresh = some copy)
    (origin : copy.forkedFrom = some id) :
    ∃ index now handover running patch made record, move = .advance index now handover ∧
      ((idle store).run service earlier).requests[index]? = some running ∧
      running.operation = .save id patch fresh made ∧
      ForkOf service store earlier index running id patch fresh made copy record := by
  rw [run_concat] at appears
  rcases (step_transition service _ move).entryAt? fresh with
    same | ⟨index, now, handover, running, query, next, moved, here, left, _, effect⟩
  · cases absent.symm.trans (same.symm.trans appears)
  · rw [effect, absent] at appears
    obtain ⟨document, rfl, rfl, rfl⟩ := effect_none appears
    rw [Entry.forkedFrom_ofDocument] at origin
    obtain ⟨requester, operation, rest⟩ := running
    cases (left : rest = _)
    obtain ⟨stage, follows, recalls⟩ := conducted_run service store earlier index _ here
    cases operation with
    | save own patch fresh made =>
        cases stage with
        | unread => cases (follows.1 : Call.insert document = .get own)
        | past => exact follows.1.elim
        | read record =>
            have derived : Derived requester own patch fresh made record (.insert document) :=
              follows.1
            cases derived with
            | fork accepted foreign shown chosen =>
                cases (origin : some own = some id)
                refine ⟨index, now, handover, _, patch, made, record, moved, here, rfl,
                  recalls id patch fresh made record rfl rfl, shown, foreign, ?_⟩
                exact forked_ofDocument accepted chosen _ id fresh requester made
    | create | delete | fetch | list | categories | preview | send =>
        have none : document.forkedFrom = none := follows.1
        cases none.symm.trans origin

/-- The owner of a document that is there all the while stays the same. -/
theorem owner_run {shared : Shared} {old new : Entry} (moves : List Move)
    (stays : ∀ count ≤ moves.length,
      (shared.run service (moves.take count)).store.entryAt? id ≠ none)
    (found : shared.store.entryAt? id = some old)
    (left : (shared.run service moves).store.entryAt? id = some new) :
    new.owner = old.owner := by
  induction moves generalizing shared old with
  | nil =>
      cases found.symm.trans left
      rfl
  | cons move rest ih =>
      obtain ⟨between, there⟩ := Option.ne_none_iff_exists'.1 (stays 1 (by simp))
      have remains : ∀ count ≤ rest.length,
          ((shared.step service move).run service (rest.take count)).store.entryAt? id ≠
            none :=
        fun count short => stays (count + 1) (Nat.succ_le_succ short)
      have later := ih remains there left
      have kept : between.owner = old.owner := by
        rcases (step_transition service shared move).entryAt? id with
          same | ⟨_, _, _, _, _, _, _, _, _, _, after⟩
        · cases there.symm.trans (same.trans found)
          rfl
        · rw [found] at after
          exact (effect_identity (after.symm.trans there)).2.1
      exact later.trans kept

end Runs

/-- Nothing is lost to overlapping saves of a document that is not deleted meanwhile,
whatever else is asked of the service. -/
theorem overlapping_saves (service : Service) {store : Store} {id : DocumentId}
    {moves : List Move} {old : Entry} (found : store.entryAt? id = some old)
    (stays : ∀ count ≤ moves.length,
      ((idle store).run service (moves.take count)).store.entryAt? id ≠ none) :
    ∃ new, ((idle store).run service moves).store.entryAt? id = some new ∧
      NothingLost service store id moves old new := by
  have remains := stays moves.length (Nat.le_refl _)
  rw [List.take_length] at remains
  obtain ⟨new, left⟩ := Option.ne_none_iff_exists'.1 remains
  have fields (field : Field) := kept_run field moves stays found left
  refine ⟨new, left, fields, ?_, ?_, ?_⟩
  · intro field update value member sets alone
    rw [fields field]
    exact Field.after_of_mem member sets alone _
  · rintro earlier later move update rfl applies
    obtain ⟨index, now, handover, running, patch, fresh, made, moved, here, owns, saves,
      accepted⟩ := save_of_applied applies
    obtain ⟨entry, there, owned⟩ := owns_iff.1 owns
    have soFar : ∀ count ≤ earlier.length,
        ((idle store).run service (earlier.take count)).store.entryAt? id ≠ none := by
      intro count short
      have before := stays count (by simp only [List.length_append]; omega)
      rwa [List.take_append_of_le_length short] at before
    have same : entry.owner = old.owner :=
      owner_run earlier soFar found there
    exact ⟨index, now, handover, running, patch, fresh, made, moved, here, saves,
      owned.symm.trans same, accepted⟩
  · intro earlier later move fresh copy _ absent appears origin
    exact forkOf_appeared absent appears origin

/-- The owner begins to save a name and a category, and another user begins to save a
subject. All three read the document before any of them writes. -/
def crossingSaves (now : Time.Instant) : List Move :=
  let owner : UserId := ⟨"ada"⟩
  let next (index : Nat) : Move := .advance index now (.error (.failed ""))
  let save (patch : DocumentPatch) (fresh : String) : Operation :=
    .save ⟨"d1"⟩ patch ⟨fresh⟩ now
  [.start owner (save ⟨some "May", none, none, none, none, none⟩ "d2"),
    .start ⟨"bob"⟩ (save ⟨none, none, some "Hello", none, none, none⟩ "d3"),
    .start owner (save ⟨none, some "News", none, none, none, none⟩ "d4"),
    next 0, next 1, next 2, next 2, next 0, next 1]

theorem overlapping_saves_crossing :
    let noon : Time.Instant := ⟨⟨2024, 5, 1, by decide⟩, 720, 0, 0, by decide⟩
    let record : DocumentRecord := ⟨⟨"d1"⟩, ⟨"ada"⟩, "Welcome", "", "", none, .everyone,
      none, .array [], noon⟩
    let store : Store := .memory (Store.MemoryStore.empty.put record)
    let service : Service := ⟨"", .empty⟩
    let moves := crossingSaves noon
    store.entryAt? ⟨"d1"⟩ = some (.structured record) ∧
      (∀ count ≤ moves.length,
        ((idle store).run service (moves.take count)).store.entryAt? ⟨"d1"⟩ ≠ none) ∧
      ((idle store).updates service ⟨"d1"⟩ moves).map
        (fun update => (update.name, update.category)) =
          [(none, some "News"), (some "May", none)] ∧
      ∃ new, ((idle store).run service moves).store.entryAt? ⟨"d1"⟩ = some new ∧
        NothingLost service store ⟨"d1"⟩ moves (.structured record) new := by
  intro noon record store service moves
  have found : store.entryAt? ⟨"d1"⟩ = some (.structured record) := rfl
  have present : ∀ count ≤ moves.length,
      (((idle store).run service (moves.take count)).store.entryAt? ⟨"d1"⟩).isSome = true := by
    decide
  have stays : ∀ count ≤ moves.length,
      ((idle store).run service (moves.take count)).store.entryAt? ⟨"d1"⟩ ≠ none :=
    fun count short => Option.isSome_iff_ne_none.1 (present count short)
  exact ⟨found, stays, by decide, overlapping_saves service found stays⟩

end BlockMail.Service
