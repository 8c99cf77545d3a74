import BlockMail.Proofs.Editor.History
import BlockMail.Proofs.Editor.InPlace

/-!
# What a session keeps count of

The selection, the version, the flag and the identifiers out of use are written after the
document, one after the other. Here sessions are worked on in place, so that a step which
fails could leave some of them behind. None does: a step happens as a whole or not at all,
a batch ends with the last edit that succeeded, the selection stays on a block that is
there, and the version counts the edits.
-/

set_option autoImplicit false

namespace BlockMail

/-- What no edit changes: whose document it is, where it comes from, when it was stored. -/
structure Document.SameIdentity (document after : Document) : Prop where
  id : after.id = document.id
  owner : after.owner = document.owner
  forkedFrom : after.forkedFrom = document.forkedFrom
  updatedAt : after.updatedAt = document.updatedAt

theorem Document.SameIdentity.refl (document : Document) : document.SameIdentity document :=
  ⟨rfl, rfl, rfl, rfl⟩

theorem Document.SameIdentity.trans {first second third : Document}
    (earlier : first.SameIdentity second) (later : second.SameIdentity third) :
    first.SameIdentity third :=
  ⟨later.id.trans earlier.id, later.owner.trans earlier.owner,
    later.forkedFrom.trans earlier.forkedFrom, later.updatedAt.trans earlier.updatedAt⟩

namespace Mutation

variable {mutation : Mutation} {freshId : String} {document after : Document}
  {created : Option String}

theorem Effect.sameIdentity (effect : Effect freshId document mutation after created) :
    document.SameIdentity after := by
  obtain ⟨id, owner, forkedFrom, updatedAt⟩ := effect.identity
  exact ⟨id, owner, forkedFrom, updatedAt⟩

theorem Effect.mem_created (effect : Effect freshId document mutation after created)
    {id : String} (made : created = some id) : id ∈ after.blocks.map Block.id := by
  have inserted (block : Block) (index : Option Nat) :
      block.id ∈ (Blocks.insertAt document.blocks index block).map Block.id :=
    List.mem_map_of_mem ((Blocks.insertAt_perm _ _ _).mem_iff.2 List.mem_cons_self)
  cases effect with
  | @added kind index =>
      cases made
      have there := inserted (Starter.paletteBlock kind freshId) index
      rwa [Starter.paletteBlock_id] at there
  | @inserted block index =>
      cases made
      exact inserted block index
  | removed | moved | dataSet | styleSet | named | categorized | titled | described
  | shown => cases made

/-- A block stays unless it is removed by its own identifier, also where others have the
same one. -/
theorem Effect.mem_kept (effect : Effect freshId document mutation after created)
    {id : String} (before : id ∈ document.blocks.map Block.id)
    (kept : mutation ≠ .removeBlock id) : id ∈ after.blocks.map Block.id := by
  have inserted (block : Block) (index : Option Nat) :
      id ∈ (Blocks.insertAt document.blocks index block).map Block.id := by
    rw [((Blocks.insertAt_perm document.blocks index block).map Block.id).mem_iff]
    exact List.mem_cons_of_mem _ before
  cases effect with
  | added | inserted => exact inserted _ _
  | removed placed =>
      obtain ⟨block, there, rfl⟩ := Document.position_ok placed
      obtain ⟨inside, found⟩ := List.getElem?_eq_some_iff.1 there
      have parted := (List.getElem_cons_eraseIdx_perm inside).map Block.id
      rw [← parted.mem_iff, List.map_cons, List.mem_cons, found] at before
      rcases before with rfl | before
      · exact absurd rfl kept
      · exact before
  | moved => rwa [Document.withBlocks, ((Blocks.moveTo_perm _ _ _).map Block.id).mem_iff]
  | @dataSet _ _ _ _ block content _ there =>
      rwa [Document.withBlocks, Blocks.ids_set there { block with content := content } rfl]
  | @styleSet _ key value _ block _ there =>
      rwa [Document.withBlocks, Blocks.ids_set there (block.setStyle key value) rfl]
  | named | categorized | titled | described | shown => exact before

end Mutation

namespace EditSession

open InPlace

/-- Steps that work on a session. -/
abbrev Work := InPlace EditSession EditError

/-! ## Steps in place -/

section Steps

variable {Result : Type}

/-- Works on the document of a session, and keeps what was written to it. -/
def onDocument (steps : Mutation.Work Result) : Work Result :=
  ExceptT.mk fun session =>
    let ended := steps.on session.document
    (ended.1.mapError .mutation, { session with document := ended.2 })

/-- Selects a block that was created. -/
def noteCreated : Option String → Work Unit
  | some id => modify fun session => { session with selectedId := some id }
  | none => pure ()

/-- Takes the identifier of a removed block out of the selection and out of use. -/
def noteRemoved : Option String → Work Unit
  | some id => do
      modify fun session =>
        if session.selectedId = some id then { session with selectedId := none } else session
      modify fun session => { session with retired := id :: session.retired }
  | none => pure ()

/-- Writes down that the document was edited, one entry after the other. -/
def noteEdit (created removed : Option String) : Work Unit := do
  modify fun session => { session with version := session.version + 1 }
  modify fun session => { session with isDirty := true }
  noteCreated created
  noteRemoved removed

def applyWork (edit : Edit) : Work (Option String) := do
  consult fun session => (session.checkRetired edit.mutation).mapError .mutation
  let created ← onDocument (edit.mutation.work edit.freshId)
  noteEdit created (removedId? edit.mutation)
  return created

def applyAllWork : List Edit → Work Unit
  | [] => pure ()
  | edit :: rest => do
      let _ ← applyWork edit
      applyAllWork rest

def selectWork (id : Option String) : Work Unit := do
  consult fun session =>
    match id with
    | some id =>
        if (session.document.findBlock? id).isNone then .error (.unknownSelection id)
        else .ok ()
    | none => .ok ()
  modify fun session => { session with selectedId := id }

def Event.work : Event → Work Unit
  | .one (.edit edit) => do
      let _ ← applyWork edit
  | .one (.select id) => selectWork id
  | .one (.saved outcome requester) => modify fun session => session.markSaved outcome requester
  | .batch edits => applyAllWork edits

/-- The session after a run of events in place, whether they succeed or fail. -/
def workedOn (session : EditSession) (events : List Event) : EditSession :=
  events.foldl (fun session event => (event.work.on session).2) session

theorem on_onDocument (steps : Mutation.Work Result) (session : EditSession) :
    (onDocument steps).on session =
      ((steps.on session.document).1.mapError .mutation,
        { session with document := (steps.on session.document).2 }) := rfl

theorem on_noteCreated (created : Option String) (session : EditSession) :
    (noteCreated created).on session =
      (.ok (), { session with selectedId := created <|> session.selectedId }) := by
  cases created <;> rfl

theorem on_noteRemoved (removed : Option String) (session : EditSession) :
    (noteRemoved removed).on session =
      (.ok (), { session with
        selectedId :=
          if removed.isSome ∧ session.selectedId = removed then none else session.selectedId
        retired := removed.toList ++ session.retired }) := by
  cases removed with
  | none => simp [noteRemoved]
  | some id =>
      simp only [noteRemoved]
      rw [on_bind, on_modify]
      dsimp only
      rw [on_modify]
      by_cases selected : session.selectedId = some id <;> simp [selected]

theorem on_noteEdit (created removed : Option String) (session : EditSession) :
    (noteEdit created removed).on session =
      (.ok (), { session with
        selectedId :=
          if removed.isSome ∧ (created <|> session.selectedId) = removed then none
          else created <|> session.selectedId
        retired := removed.toList ++ session.retired
        isDirty := true
        version := session.version + 1 }) := by
  simp only [noteEdit, on_bind, on_modify, on_noteCreated, on_noteRemoved]

end Steps

variable {session : EditSession}

theorem removedId?_of_created {edit : Edit} {document : Document} {id : String}
    (applied : edit.mutation.apply edit.freshId session.document = .ok (document, some id)) :
    removedId? edit.mutation = none := by
  rcases (Mutation.effect_of_apply applied).created_cases rfl with ⟨_, _, made, _⟩ | ⟨_, _, made, _⟩
  · rw [made]
    rfl
  · rw [made]
    rfl

/-- A mutation that a session applies in place is applied as a whole or not at all. -/
theorem on_applyWork (session : EditSession) (edit : Edit) :
    (applyWork edit).on session = atOnce session (session.apply edit) := by
  unfold applyWork
  rw [on_bind, on_consult]
  cases admitted : session.checkRetired edit.mutation with
  | error cause =>
      simp only [apply, edited, admitted]
      rfl
  | ok =>
      have edits : session.edited edit = edit.mutation.apply edit.freshId session.document := by
        simp only [edited, admitted]
        rfl
      simp only [Except.mapError, apply, edits]
      rw [on_bind, on_onDocument, Mutation.on_work]
      cases applied : edit.mutation.apply edit.freshId session.document with
      | error cause => rfl
      | ok result =>
          obtain ⟨document, created⟩ := result
          simp only [atOnce, Except.mapError]
          rw [on_bind, on_noteEdit]
          cases created with
          | none => rfl
          | some id =>
              rw [removedId?_of_created applied]
              rfl

theorem on_selectWork (session : EditSession) (id : Option String) :
    (selectWork id).on session =
      atOnce session ((session.select id).map fun next => (next, ())) := by
  unfold selectWork select
  rw [on_bind, on_consult]
  cases id with
  | none => rfl
  | some id =>
      by_cases missing : (session.document.findBlock? id).isNone
      · simp only [missing, if_true]
        rfl
      · simp only [missing]
        rfl

theorem on_applyAllWork (session : EditSession) (edits : List Edit) :
    (applyAllWork edits).on session = ((session.applyAll edits).2, (session.applyAll edits).1) := by
  induction edits generalizing session with
  | nil => rfl
  | cons edit rest ih =>
      unfold applyAllWork applyAll
      rw [on_bind, on_applyWork]
      rcases session.apply edit with cause | ⟨next, created⟩
      · rfl
      · exact ih next

theorem on_work (session : EditSession) (event : Event) :
    (event.work.on session).2 = session.meet event := by
  cases event with
  | one done =>
      cases done with
      | edit edit =>
          simp only [Event.work, meet, act, take]
          rw [on_bind, on_applyWork]
          rcases session.apply edit with cause | ⟨next, created⟩ <;> rfl
      | select id =>
          simp only [Event.work, meet, act, take]
          rw [on_selectWork]
          cases session.select id <;> rfl
      | saved outcome requester => rfl
  | batch edits =>
      simp only [Event.work, meet, take]
      rw [on_applyAllWork]

theorem workedOn_eq (session : EditSession) (events : List Event) :
    session.workedOn events = session.meetAll events := by
  unfold workedOn meetAll
  congr 1
  funext earlier event
  exact on_work earlier event

/-! ## Batches -/

/-- Edits that succeed one after the other, and the session they lead to. -/
inductive Makes : EditSession → List Edit → EditSession → Prop where
  | nil {session : EditSession} : Makes session [] session
  | cons {session next final : EditSession} {edit : Edit} {created : Option String}
      {rest : List Edit} :
      session.apply edit = .ok (next, created) → Makes next rest final →
      Makes session (edit :: rest) final

/-- A batch that ends with the last of some edits at its start, which succeed. They are all
of the batch, or the edit behind them is the one that fails. -/
structure EndsWith (session : EditSession) (edits done : List Edit) (final : EditSession)
    (outcome : Except EditError Unit) : Prop where
  makes : session.Makes done final
  longest : ∀ more next, more <+: edits → session.Makes more next → more <+: done
  stops : (edits = done ∧ outcome = .ok ()) ∨
    ∃ edit rest cause, edits = done ++ edit :: rest ∧ final.apply edit = .error cause ∧
      outcome = .error cause

theorem EndsWith.of_error {edit : Edit} {cause : EditError}
    (refused : session.apply edit = .error cause) (rest : List Edit) :
    session.EndsWith (edit :: rest) [] session (.error cause) := by
  refine ⟨.nil, ?_, .inr ⟨edit, rest, cause, rfl, refused, rfl⟩⟩
  intro more next within makes
  cases makes with
  | nil => exact List.prefix_rfl
  | cons applied _ =>
      obtain ⟨rfl, _⟩ := List.cons_prefix_cons.1 within
      rw [refused] at applied
      cases applied

theorem EndsWith.cons {next final : EditSession} {edit : Edit} {created : Option String}
    {rest done : List Edit} {outcome : Except EditError Unit}
    (applied : session.apply edit = .ok (next, created))
    (ends : next.EndsWith rest done final outcome) :
    session.EndsWith (edit :: rest) (edit :: done) final outcome := by
  refine ⟨.cons applied ends.makes, ?_, ?_⟩
  · intro more reached within makes
    cases makes with
    | nil => exact List.nil_prefix
    | cons first others =>
        obtain ⟨rfl, shorter⟩ := List.cons_prefix_cons.1 within
        rw [applied] at first
        cases first
        exact List.cons_prefix_cons.2 ⟨rfl, ends.longest _ _ shorter others⟩
  · rcases ends.stops with ⟨rfl, all⟩ | ⟨failing, later, cause, rfl, refused, stopped⟩
    · exact .inl ⟨rfl, all⟩
    · exact .inr ⟨failing, later, cause, rfl, refused, stopped⟩

theorem endsWith_applyAll (session : EditSession) (edits : List Edit) :
    ∃ done, session.EndsWith edits done (session.applyAll edits).1 (session.applyAll edits).2 := by
  induction edits generalizing session with
  | nil => exact ⟨[], .nil, fun _ _ within _ => within, .inl ⟨rfl, rfl⟩⟩
  | cons edit rest ih =>
      unfold applyAll
      cases applied : session.apply edit with
      | error cause => exact ⟨[], .of_error applied rest⟩
      | ok result =>
          obtain ⟨next, created⟩ := result
          obtain ⟨done, ends⟩ := ih next
          exact ⟨edit :: done, ends.cons applied⟩

/-! ## The selection -/

/-- The selection is on a block that is there. -/
def SelectsPresent (session : EditSession) : Prop :=
  ∀ id ∈ session.selectedId, id ∈ session.blockIds

theorem selectedId_of_apply {next : EditSession} {edit : Edit} {created : Option String}
    (applied : session.apply edit = .ok (next, created)) :
    next.selectedId =
      selectionAfter session.selectedId created (removedId? edit.mutation) := by
  unfold apply at applied
  split at applied
  · cases applied
    rfl
  · cases applied

theorem SelectsPresent.apply {next : EditSession} {edit : Edit} {created : Option String}
    (present : session.SelectsPresent) (applied : session.apply edit = .ok (next, created)) :
    next.SelectsPresent := by
  have effect := (applied_of_apply applied).effect
  intro id selected
  rw [selectedId_of_apply applied] at selected
  cases created with
  | some made =>
      cases selected
      exact effect.mem_created rfl
  | none =>
      simp only [selectionAfter] at selected
      split at selected
      · cases selected
      · rename_i stays
        refine effect.mem_kept (present id selected) ?_
        intro removes
        have out : removedId? edit.mutation = some id := removedId?_eq_some.2 removes
        exact stays ⟨by simp [out], by rw [out, selected]⟩

theorem SelectsPresent.select {next : EditSession} {id : Option String}
    (selected : session.select id = .ok next) : next.SelectsPresent := by
  cases id with
  | none =>
      cases selected
      exact nofun
  | some id =>
      simp only [EditSession.select] at selected
      split at selected
      · cases selected
      · rename_i found
        cases selected
        rintro _ ⟨⟩
        by_contra absent
        apply found
        rw [Option.isNone_iff_eq_none, Document.findBlock?_eq_none]
        rintro block member rfl
        exact absent (List.mem_map_of_mem member)

theorem SelectsPresent.act (present : session.SelectsPresent) (done : Act) :
    (session.act done).SelectsPresent := by
  cases done with
  | edit edit =>
      cases applied : session.apply edit with
      | error cause =>
          rw [act_edit_error applied]
          exact present
      | ok result =>
          obtain ⟨next, created⟩ := result
          rw [act_edit_ok applied]
          exact present.apply applied
  | select id =>
      simp only [EditSession.act, take]
      cases selected : session.select id with
      | error cause => exact present
      | ok next => exact .select selected
  | saved outcome requester =>
      intro id selected
      simp only [EditSession.act, blockIds, blocks_markSaved]
      exact present id selected

theorem SelectsPresent.acts (present : session.SelectsPresent) (done : List Act) :
    (session.acts done).SelectsPresent := by
  induction done generalizing session with
  | nil => exact present
  | cons first rest ih => exact ih (present.act first)

/-! ## The version -/

/-- The edits among some acts that succeed. -/
def succeeded (session : EditSession) : List Act → List Edit
  | [] => []
  | done :: rest =>
      let later := (session.act done).succeeded rest
      match done with
      | .edit edit =>
          match session.apply edit with
          | .ok _ => edit :: later
          | .error _ => later
      | _ => later

theorem version_acts (session : EditSession) (done : List Act) :
    (session.acts done).version = session.version + (session.succeeded done).length := by
  induction done generalizing session with
  | nil => rfl
  | cons first rest ih =>
      rw [acts, List.foldl_cons, ← acts, ih]
      cases first with
      | edit edit =>
          simp only [succeeded]
          cases applied : session.apply edit with
          | error cause => rw [act_edit_error applied]
          | ok result =>
              obtain ⟨next, created⟩ := result
              rw [act_edit_ok applied, (applied_of_apply applied).version, List.length_cons]
              omega
      | select id =>
          simp only [succeeded, act, take]
          cases selected : session.select id with
          | error cause => rfl
          | ok next =>
              dsimp only
              rw [eq_of_select selected]
      | saved outcome requester => rfl

/-! ## The identity of the document -/

/-- Whether an act is a save that made a fork. -/
def Act.Forks (done : Act) : Prop :=
  ∃ outcome requester, done = .saved outcome requester ∧ outcome.created = true

theorem sameIdentity_act {done : Act} (stays : ¬done.Forks) :
    session.document.SameIdentity (session.act done).document := by
  cases done with
  | edit edit =>
      cases applied : session.apply edit with
      | error cause =>
          rw [act_edit_error applied]
          exact .refl _
      | ok result =>
          obtain ⟨next, created⟩ := result
          rw [act_edit_ok applied]
          exact (applied_of_apply applied).effect.sameIdentity
  | select id =>
      simp only [act, take]
      cases selected : session.select id with
      | error cause => exact .refl _
      | ok next =>
          dsimp only
          rw [eq_of_select selected]
          exact .refl _
  | saved outcome requester =>
      have inPlace : outcome.created ≠ true := fun created => stays ⟨_, _, rfl, created⟩
      simp only [act, markSaved, if_neg inPlace]
      exact .refl _

theorem sameIdentity_acts {done : List Act} (stays : ∀ one ∈ done, ¬one.Forks) :
    session.document.SameIdentity (session.acts done).document := by
  induction done generalizing session with
  | nil => exact .refl _
  | cons first rest ih =>
      obtain ⟨here, later⟩ := List.forall_mem_cons.1 stays
      exact (sameIdentity_act here).trans (ih later)

theorem sameIdentity_meet {event : Event} (stays : ∀ done, event = .one done → ¬done.Forks) :
    session.document.SameIdentity (session.meet event).document := by
  rw [← acts_unfold]
  apply sameIdentity_acts
  intro done member
  cases event with
  | one only =>
      cases List.mem_singleton.1 member
      exact stays _ rfl
  | batch edits =>
      obtain ⟨edit, _, rfl⟩ := List.mem_map.1 member
      rintro ⟨_, _, impossible, _⟩
      cases impossible

/-! ## Every run -/

/-- After any run of events in place, the selection is on a block that is there and the
version is the number of edits that succeeded. What fails then, leaves the session as it
is, and a batch ends with the longest start of it that succeeds. Only a save that makes a
fork gives the document another identity, and a visibility with it. -/
theorem books_are_kept (origin : Document) (events : List Event) :
    let session := (start origin).workedOn events
    (∀ id ∈ session.selectedId, ∃ block ∈ session.document.blocks, block.id = id) ∧
      session.version = ((start origin).succeeded ((start origin).history events)).length ∧
      (∀ edit cause, ((applyWork edit).on session).1 = .error cause →
        ((applyWork edit).on session).2 = session) ∧
      (∀ id cause, ((selectWork id).on session).1 = .error cause →
        ((selectWork id).on session).2 = session) ∧
      (∀ edits, ∃ done, session.EndsWith edits done
        ((applyAllWork edits).on session).2 ((applyAllWork edits).on session).1) ∧
      (∀ event : Event, (∀ done, event = .one done → ¬done.Forks) →
        session.document.SameIdentity (event.work.on session).2.document) ∧
      ∀ outcome requester, outcome.created = true →
        ((Event.one (.saved outcome requester)).work.on session).2.document =
          { session.document with
            id := outcome.id
            owner := requester
            forkedFrom := some session.document.id
            visibility := .ownerOnly } := by
  intro session
  have reached : session = (start origin).acts ((start origin).history events) :=
    (workedOn_eq _ _).trans (acts_history _ _).symm
  refine ⟨?_, ?_, ?_, ?_, ?_, ?_, ?_⟩
  · have unselected : (start origin).SelectsPresent := nofun
    intro id selected
    rw [reached] at selected ⊢
    obtain ⟨block, member, named⟩ := List.mem_map.1 (unselected.acts _ id selected)
    exact ⟨block, member, named⟩
  · rw [reached, version_acts]
    exact Nat.zero_add _
  · intro edit cause refused
    rw [on_applyWork] at refused ⊢
    exact state_of_refused refused
  · intro id cause refused
    rw [on_selectWork] at refused ⊢
    exact state_of_refused refused
  · intro edits
    rw [on_applyAllWork]
    exact endsWith_applyAll session edits
  · intro event stays
    rw [on_work]
    exact sameIdentity_meet stays
  · intro outcome requester created
    rw [on_work]
    simp only [meet, act, markSaved, if_pos created]
    rfl

end EditSession

end BlockMail
