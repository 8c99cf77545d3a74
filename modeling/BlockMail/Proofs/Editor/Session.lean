import BlockMail.Editor.Session
import BlockMail.Proofs.Editor.Mutation
import BlockMail.Proofs.Template.Patch

/-!
# Runs of a session

An author's steps in a session, one after the other, and what any run of them keeps
of the document that was opened.
-/

set_option autoImplicit false

namespace BlockMail

/-- A document under the identity of the one it was edited from, in a form that can
be stored. -/
structure Document.EditOf (origin document : Document) : Prop where
  id : document.id = origin.id
  owner : document.owner = origin.owner
  forkedFrom : document.forkedFrom = origin.forkedFrom
  storable : Blocks.Storable document.blocks
  described : document.description ≠ some ""

theorem Mutation.Effect.editOf {mutation : Mutation} {freshId : String}
    {origin document after : Document} {created : Option String}
    (effect : Effect freshId document mutation after created)
    (fresh : mutation.FreshFor freshId document) (edit : origin.EditOf document) :
    origin.EditOf after := by
  obtain ⟨id, owner, forkedFrom, _⟩ := effect.identity
  exact ⟨id.trans edit.id, owner.trans edit.owner, forkedFrom.trans edit.forkedFrom,
    effect.storable fresh edit.storable, effect.description edit.described⟩

namespace EditSession

/-- What an author does in a session. -/
inductive Step where
  | apply (edit : Edit)
  | applyAll (edits : List Edit)
  | select (id : Option String)

/-- The session after a step, which may fail. -/
def take (session : EditSession) : Step → EditSession
  | .apply edit =>
      match session.apply edit with
      | .ok (next, _) => next
      | .error _ => session
  | .applyAll edits => (session.applyAll edits).1
  | .select id =>
      match session.select id with
      | .ok next => next
      | .error _ => session

/-- The session after a run of steps. -/
def after (session : EditSession) (steps : List Step) : EditSession :=
  steps.foldl take session

/-! ## Fresh identifiers -/

/-- The block that an edit takes from the palette has a new identifier. -/
def FreshEdit (session : EditSession) (edit : Edit) : Prop :=
  edit.mutation.FreshFor edit.freshId session.document

/-- Each of the edits that are made has a new identifier when it is made. -/
def FreshEdits (session : EditSession) : List Edit → Prop
  | [] => True
  | edit :: rest =>
      session.FreshEdit edit ∧
        match session.apply edit with
        | .ok (next, _) => next.FreshEdits rest
        | .error _ => True

def FreshStep (session : EditSession) : Step → Prop
  | .apply edit => session.FreshEdit edit
  | .applyAll edits => session.FreshEdits edits
  | .select _ => True

/-- The identifiers that are generated during a run are new when they are used. -/
def FreshSteps (session : EditSession) : List Step → Prop
  | [] => True
  | step :: rest => session.FreshStep step ∧ (session.take step).FreshSteps rest

/-! ## What steps keep -/

/-- What the session of a mutation that is admitted and succeeds has become. -/
structure Applied (session : EditSession) (edit : Edit) (next : EditSession)
    (created : Option String) : Prop where
  admitted : session.checkRetired edit.mutation = .ok ()
  effect : edit.mutation.Effect edit.freshId session.document next.document created
  retired : next.retired = (removedId? edit.mutation).toList ++ session.retired
  isDirty : next.isDirty = true
  version : next.version = session.version + 1

theorem applied_of_apply {session next : EditSession} {edit : Edit}
    {created : Option String} (applied : session.apply edit = .ok (next, created)) :
    session.Applied edit next created := by
  unfold apply at applied
  cases changed : session.edited edit with
  | error cause => simp [changed] at applied
  | ok result =>
      simp only [changed, Except.ok.injEq, Prod.mk.injEq] at applied
      obtain ⟨rfl, rfl⟩ := applied
      obtain ⟨_, admitted, applied⟩ := exists_of_bind changed
      exact ⟨admitted, Mutation.effect_of_apply applied, rfl, rfl, rfl⟩

variable {origin : Document} {session : EditSession}

theorem editOf_applyAll (edits : List Edit) (edit : origin.EditOf session.document)
    (fresh : session.FreshEdits edits) :
    origin.EditOf (session.applyAll edits).1.document := by
  induction edits generalizing session with
  | nil => exact edit
  | cons first rest ih =>
      obtain ⟨freshFirst, freshRest⟩ := fresh
      unfold applyAll
      cases applied : session.apply first with
      | error cause => exact edit
      | ok result =>
          obtain ⟨next, created⟩ := result
          rw [applied] at freshRest
          exact ih ((applied_of_apply applied).effect.editOf freshFirst edit) freshRest

theorem eq_of_select {next : EditSession} {id : Option String}
    (selected : session.select id = .ok next) : next = { session with selectedId := id } := by
  unfold select at selected
  split at selected
  · split at selected
    · cases selected
    · cases selected
      rfl
  · cases selected
    rfl

theorem editOf_take (step : Step) (edit : origin.EditOf session.document)
    (fresh : session.FreshStep step) : origin.EditOf (session.take step).document := by
  cases step with
  | apply mutation =>
      cases applied : session.apply mutation with
      | error cause =>
          simp only [take, applied]
          exact edit
      | ok result =>
          simp only [take, applied]
          exact (applied_of_apply applied).effect.editOf fresh edit
  | applyAll edits => exact editOf_applyAll edits edit fresh
  | select id =>
      cases selected : session.select id with
      | error cause =>
          simp only [take, selected]
          exact edit
      | ok next =>
          simp only [take, selected]
          rw [eq_of_select selected]
          exact edit

theorem editOf_after (steps : List Step) (edit : origin.EditOf session.document)
    (fresh : session.FreshSteps steps) :
    origin.EditOf (session.after steps).document := by
  induction steps generalizing session with
  | nil => exact edit
  | cons step rest ih => exact ih (editOf_take step edit fresh.1) fresh.2

/-! ## Saving -/

theorem payload?_toPatch (session : EditSession) :
    session.toPatch.payload? = some (Blocks.toJson session.document.blocks) := rfl

theorem decodeValid_toJson {blocks : List Block} (storable : Blocks.Storable blocks) :
    Blocks.decodeValid (Blocks.toJson blocks) = .ok blocks :=
  Blocks.decodeValid_eq_ok.2 ⟨Blocks.decode_toJson blocks, storable⟩

theorem toUpdate_toPatch (storable : Blocks.Storable session.document.blocks) :
    session.toPatch.toUpdate =
      .ok (session.toPatch.update (some session.document.blocks)) := by
  rw [DocumentPatch.toUpdate_eq, payload?_toPatch]
  simp only [decodeValid_toJson storable, Except.map]

/-- A description travels as text, empty for none. -/
theorem description_toPatch (described : session.document.description ≠ some "") :
    session.toPatch.description.map nonEmptyText? =
      some session.document.description := by
  simp only [toPatch, Option.map_some, Option.some.injEq]
  cases given : session.document.description with
  | none => rfl
  | some text =>
      have filled : text ≠ "" := by
        rintro rfl
        exact described given
      simp [nonEmptyText?, filled]

@[simp] theorem blocks_markSaved (session : EditSession) (outcome : SaveOutcome)
    (requester : UserId) :
    (session.markSaved outcome requester).document.blocks = session.document.blocks := by
  simp only [markSaved]
  split <;> rfl

@[simp] theorem description_markSaved (session : EditSession) (outcome : SaveOutcome)
    (requester : UserId) :
    (session.markSaved outcome requester).document.description =
      session.document.description := by
  simp only [markSaved]
  split <;> rfl

end EditSession

end BlockMail
