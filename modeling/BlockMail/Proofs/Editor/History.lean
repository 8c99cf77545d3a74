import BlockMail.Proofs.Editor.Session

/-!
# Histories of a session

Everything that can happen to a session, in any order: edits, alone and in batches,
selections, and saves that end. Whatever happens, the blocks stay in a form that can be
stored, and the identifier of a block that was taken out does not come back. The patch
of the session then says all that its document says.
-/

set_option autoImplicit false

namespace BlockMail.EditSession

inductive Act where
  | edit (edit : Edit)
  | select (id : Option String)
  | saved (outcome : SaveOutcome) (requester : UserId)

/-- One thing, or a batch of edits up to the first that fails. -/
inductive Event where
  | one (act : Act)
  | batch (edits : List Edit)

def act (session : EditSession) : Act → EditSession
  | .edit edit => session.take (.apply edit)
  | .select id => session.take (.select id)
  | .saved outcome requester => session.markSaved outcome requester

def acts (session : EditSession) (done : List Act) : EditSession := done.foldl act session

def meet (session : EditSession) : Event → EditSession
  | .one done => session.act done
  | .batch edits => session.take (.applyAll edits)

def meetAll (session : EditSession) (events : List Event) : EditSession :=
  events.foldl meet session

/-! ## Batches, one edit at a time -/

/-- The edits of a batch that are tried: those up to the first that fails. -/
def tried (session : EditSession) : List Edit → List Edit
  | [] => []
  | edit :: rest =>
      edit ::
        match session.apply edit with
        | .ok (next, _) => next.tried rest
        | .error _ => []

def unfold (session : EditSession) : Event → List Act
  | .one done => [done]
  | .batch edits => (session.tried edits).map .edit

/-- What happens in a run of events, with the edits of batches one after the other. -/
def history (session : EditSession) : List Event → List Act
  | [] => []
  | event :: rest => session.unfold event ++ (session.meet event).history rest

theorem acts_append (session : EditSession) (earlier later : List Act) :
    session.acts (earlier ++ later) = (session.acts earlier).acts later :=
  List.foldl_append

theorem act_edit_ok {session next : EditSession} {edit : Edit} {created : Option String}
    (applied : session.apply edit = .ok (next, created)) :
    session.act (.edit edit) = next := by
  simp only [act, take, applied]

theorem act_edit_error {session : EditSession} {edit : Edit} {cause : EditError}
    (refused : session.apply edit = .error cause) : session.act (.edit edit) = session := by
  simp only [act, take, refused]

theorem acts_tried (session : EditSession) (edits : List Edit) :
    session.acts ((session.tried edits).map .edit) = (session.applyAll edits).1 := by
  induction edits generalizing session with
  | nil => rfl
  | cons edit rest ih =>
      unfold tried applyAll
      rw [List.map_cons, acts, List.foldl_cons]
      cases applied : session.apply edit with
      | error cause => exact act_edit_error applied
      | ok result =>
          obtain ⟨next, created⟩ := result
          rw [act_edit_ok applied]
          exact ih next

theorem acts_unfold (session : EditSession) (event : Event) :
    session.acts (session.unfold event) = session.meet event := by
  cases event with
  | one done => rfl
  | batch edits => exact acts_tried session edits

theorem acts_history (session : EditSession) (events : List Event) :
    session.acts (session.history events) = session.meetAll events := by
  induction events generalizing session with
  | nil => rfl
  | cons event rest ih =>
      rw [history, acts_append, acts_unfold]
      exact ih (session.meet event)

/-! ## Identifiers that come and go -/

def blockIds (session : EditSession) : List String := session.document.blocks.map Block.id

/-- The identifiers of blocks that were there at some time and then were not. -/
def removed (session : EditSession) : List Act → List String
  | [] => []
  | done :: rest =>
      session.blockIds.filter (fun id => id ∉ (session.act done).blockIds) ++
        (session.act done).removed rest

/-- The identifier that is generated for a block from the palette. -/
def Act.generates? : Act → Option String
  | .edit ⟨.addBlock _ _, freshId⟩ => some freshId
  | _ => none

def Act.brings : Act → List String
  | .edit ⟨.addBlock _ _, freshId⟩ => [freshId]
  | .edit ⟨.insertBlock block _, _⟩ => [block.id]
  | _ => []

/-- Whether each identifier that is generated is not empty and differs from all that
were seen before. -/
def GeneratesNew (seen : List String) : List Act → Prop
  | [] => True
  | done :: rest =>
      (∀ id ∈ done.generates?, id ≠ "" ∧ id ∉ seen) ∧ GeneratesNew (done.brings ++ seen) rest

instance decidableGeneratesNew : (seen : List String) → (done : List Act) →
    Decidable (GeneratesNew seen done)
  | _, [] => .isTrue trivial
  | seen, first :: rest =>
      have := decidableGeneratesNew (first.brings ++ seen) rest
      inferInstanceAs (Decidable (_ ∧ GeneratesNew (first.brings ++ seen) rest))

/-- A session whose blocks can be stored, with no block under an identifier that was
taken out of use, and all identifiers among those seen. -/
structure Accounted (seen : List String) (session : EditSession) : Prop where
  storable : Blocks.Storable session.document.blocks
  apart : ∀ id ∈ session.retired, id ∉ session.blockIds
  seenBlocks : ∀ id ∈ session.blockIds, id ∈ seen
  seenRetired : ∀ id ∈ session.retired, id ∈ seen

variable {seen : List String} {session next : EditSession} {edit : Edit}
  {created : Option String}

theorem removedId?_eq_some {mutation : Mutation} {id : String} :
    removedId? mutation = some id ↔ mutation = .removeBlock id := by
  cases mutation <;> simp [removedId?]

theorem Applied.retired_iff (applied : session.Applied edit next created) (id : String) :
    id ∈ next.retired ↔ edit.mutation = .removeBlock id ∨ id ∈ session.retired := by
  rw [applied.retired, List.mem_append, Option.mem_toList, removedId?_eq_some]

/-- The block that an edit creates has an identifier that the edit brings, and none that
was taken out of use. -/
theorem Applied.created_new (applied : session.Applied edit next created)
    (accounted : session.Accounted seen)
    (new : ∀ id ∈ (Act.edit edit).generates?, id ≠ "" ∧ id ∉ seen)
    {id : String} (made : created = some id) :
    id ∈ (Act.edit edit).brings ∧ id ∉ next.retired := by
  rw [applied.retired_iff]
  have admitted := applied.admitted
  obtain ⟨mutation, freshId⟩ := edit
  rcases applied.effect.created_cases made with ⟨kind, index, rfl, rfl⟩ | ⟨block, index, rfl, rfl⟩
  · refine ⟨by simp [Act.brings], ?_⟩
    rintro (impossible | out)
    · cases impossible
    · exact (new _ rfl).2 (accounted.seenRetired _ out)
  · refine ⟨by simp [Act.brings], ?_⟩
    rintro (impossible | out)
    · cases impossible
    · simp [checkRetired, out] at admitted

theorem freshFor_of_new (accounted : session.Accounted seen)
    (new : ∀ id ∈ (Act.edit edit).generates?, id ≠ "" ∧ id ∉ seen) :
    edit.mutation.FreshFor edit.freshId session.document := by
  obtain ⟨mutation, freshId⟩ := edit
  cases mutation with
  | addBlock kind index =>
      obtain ⟨filled, unseen⟩ := new freshId rfl
      refine ⟨filled, Document.findBlock?_eq_none.2 ?_⟩
      rintro block member rfl
      exact unseen (accounted.seenBlocks _ (List.mem_map_of_mem member))
  | insertBlock | removeBlock | moveBlock | setBlockData | setBlockStyle | setName
  | setCategory | setSubject | setDescription | setVisibility => trivial

theorem Applied.accounted (applied : session.Applied edit next created)
    (accounted : session.Accounted seen)
    (new : ∀ id ∈ (Act.edit edit).generates?, id ≠ "" ∧ id ∉ seen) :
    next.Accounted ((Act.edit edit).brings ++ seen) := by
  have ids (id : String) : id ∈ next.blockIds ↔
      (id ∈ session.blockIds ∧ edit.mutation ≠ .removeBlock id) ∨ created = some id :=
    applied.effect.mem_ids accounted.storable.distinct id
  refine ⟨?_, ?_, ?_, ?_⟩
  · exact applied.effect.storable (freshFor_of_new accounted new) accounted.storable
  · intro id out inside
    rcases (ids id).1 inside with ⟨stays, kept⟩ | made
    · rcases (applied.retired_iff id).1 out with now | before
      · exact kept now
      · exact accounted.apart id before stays
    · exact (applied.created_new accounted new made).2 out
  · intro id inside
    rcases (ids id).1 inside with ⟨stays, -⟩ | made
    · exact List.mem_append_right _ (accounted.seenBlocks id stays)
    · exact List.mem_append_left _ (applied.created_new accounted new made).1
  · intro id out
    rcases (applied.retired_iff id).1 out with now | before
    · exact List.mem_append_right _
        (accounted.seenBlocks id (applied.effect.mem_of_removeBlock now))
    · exact List.mem_append_right _ (accounted.seenRetired id before)

/-! ## What every run keeps -/

theorem Accounted.of_same (accounted : session.Accounted seen)
    (blocks : next.document.blocks = session.document.blocks)
    (retired : next.retired = session.retired) : next.Accounted seen := by
  have ids : next.blockIds = session.blockIds := congrArg (List.map Block.id) blocks
  refine ⟨?_, ?_, ?_, ?_⟩
  · rw [blocks]
    exact accounted.storable
  · rw [retired, ids]
    exact accounted.apart
  · rw [ids]
    exact accounted.seenBlocks
  · rw [retired]
    exact accounted.seenRetired

theorem Accounted.mono (accounted : session.Accounted seen) {more : List String}
    (within : seen ⊆ more) : session.Accounted more :=
  ⟨accounted.storable, accounted.apart, fun id inside => within (accounted.seenBlocks id inside),
    fun id out => within (accounted.seenRetired id out)⟩

/-- What an act makes of an accounted session: an edit that succeeds, or nothing that
touches blocks. -/
theorem act_cases (session : EditSession) (done : Act) :
    (∃ edit created, done = .edit edit ∧ session.Applied edit (session.act done) created) ∨
      ((session.act done).document.blocks = session.document.blocks ∧
        (session.act done).retired = session.retired) := by
  cases done with
  | edit edit =>
      cases applied : session.apply edit with
      | error cause =>
          rw [act_edit_error applied]
          exact .inr ⟨rfl, rfl⟩
      | ok result =>
          obtain ⟨next, created⟩ := result
          rw [act_edit_ok applied]
          exact .inl ⟨edit, created, rfl, applied_of_apply applied⟩
  | select id =>
      right
      simp only [act, take]
      cases selected : session.select id with
      | error cause => exact ⟨rfl, rfl⟩
      | ok next =>
          rw [eq_of_select selected]
          exact ⟨rfl, rfl⟩
  | saved outcome requester => exact .inr ⟨blocks_markSaved session outcome requester, rfl⟩

theorem Accounted.act (accounted : session.Accounted seen) {done : Act}
    (new : ∀ id ∈ done.generates?, id ≠ "" ∧ id ∉ seen) :
    (session.act done).Accounted (done.brings ++ seen) := by
  rcases session.act_cases done with ⟨edit, created, rfl, applied⟩ | ⟨blocks, retired⟩
  · exact applied.accounted accounted new
  · exact (accounted.of_same blocks retired).mono (List.subset_append_right _ _)

/-- Identifiers stay out of use, and those of blocks that go away are taken out. -/
theorem Accounted.retired_act (accounted : session.Accounted seen) (done : Act) {id : String} :
    (id ∈ session.retired ∨ id ∈ session.blockIds ∧ id ∉ (session.act done).blockIds) →
    id ∈ (session.act done).retired := by
  intro gone
  rcases session.act_cases done with ⟨edit, created, rfl, applied⟩ | ⟨blocks, retired⟩
  · rw [applied.retired_iff]
    rcases gone with before | ⟨inside, outside⟩
    · exact .inr before
    · left
      by_contra kept
      exact outside ((applied.effect.mem_ids accounted.storable.distinct id).2
        (.inl ⟨inside, kept⟩))
  · rw [retired]
    rcases gone with before | ⟨inside, outside⟩
    · exact before
    · rw [blockIds, blocks] at outside
      exact absurd inside outside

theorem Accounted.acts {done : List Act} (accounted : session.Accounted seen)
    (new : GeneratesNew seen done) :
    (∃ seen, (session.acts done).Accounted seen) ∧
      ∀ id, id ∈ session.retired ∨ id ∈ session.removed done →
        id ∈ (session.acts done).retired := by
  induction done generalizing session seen with
  | nil =>
      refine ⟨⟨seen, accounted⟩, ?_⟩
      rintro id (out | impossible)
      · exact out
      · cases impossible
  | cons first rest ih =>
      -- What the first act brings counts as seen for all that follow.
      obtain ⟨kept, out⟩ := ih (accounted.act new.1) new.2
      refine ⟨kept, ?_⟩
      rintro id (before | gone)
      · exact out id (.inl (accounted.retired_act first (.inl before)))
      · rcases List.mem_append.1 gone with now | later
        · obtain ⟨inside, outside⟩ := List.mem_filter.1 now
          exact out id (.inl (accounted.retired_act first (.inr ⟨inside, by simpa using outside⟩)))
        · exact out id (.inr later)

theorem accounted_start {origin : Document} (storable : Blocks.Storable origin.blocks) :
    (start origin).Accounted (origin.blocks.map Block.id) :=
  ⟨storable, by simp [start], fun _ inside => inside, by simp [start]⟩

theorem update_of_patch (storable : Blocks.Storable session.document.blocks) :
    session.toPatch.toUpdate = .ok
      { name := some session.document.name
        category := some session.document.category
        subject := some session.document.subject
        description := some (session.document.description.bind nonEmptyText?)
        blocks := some session.document.blocks
        visibility := some session.document.visibility } := by
  rw [toUpdate_toPatch storable]
  have described : session.toPatch.description.map nonEmptyText? =
      some (session.document.description.bind nonEmptyText?) := by
    cases given : session.document.description <;> simp [toPatch, given, nonEmptyText?]
  rw [DocumentPatch.update, described]
  rfl

/-- After any run of events the blocks of a session pass the check for storing, no block
has the identifier of one that was removed, and the patch of the session is accepted as
the update to exactly what its document says. Identifiers that are generated during the
run differ from all that were seen before. -/
theorem history_stays_valid (origin : Document) (events : List Event)
    (valid : Blocks.validate origin.blocks = .ok ())
    (new : GeneratesNew (origin.blocks.map Block.id) ((start origin).history events)) :
    let session := (start origin).meetAll events
    Blocks.validate session.document.blocks = .ok () ∧
      (∀ id ∈ (start origin).removed ((start origin).history events),
        ∀ block ∈ session.document.blocks, block.id ≠ id) ∧
      session.toPatch.toUpdate = .ok
        { name := some session.document.name
          category := some session.document.category
          subject := some session.document.subject
          description := some (session.document.description.bind nonEmptyText?)
          blocks := some session.document.blocks
          visibility := some session.document.visibility } := by
  intro session
  have accounted := accounted_start ((Blocks.validate_iff _).1 valid)
  obtain ⟨⟨seen, kept⟩, out⟩ := accounted.acts new
  rw [acts_history] at kept out
  refine ⟨(Blocks.validate_iff _).2 kept.storable, ?_, update_of_patch kept.storable⟩
  rintro id gone block member rfl
  exact kept.apart _ (out _ (.inr gone)) (List.mem_map_of_mem member)

/-- A block that was removed is offered again, in a batch and after a fork, and a block
from the palette comes between. -/
theorem history_stays_valid_around_removal :
    let noon : Time.Instant := ⟨⟨2024, 5, 1, by decide⟩, 720, 0, 0, by decide⟩
    let gap : Block := ⟨"gap", .spacer, .empty⟩
    let origin : Document :=
      ⟨⟨"d1"⟩, ⟨"ada"⟩, "Welcome", "Onboarding", "Hello", none, .everyone, none,
        [⟨"body", .text "Hi", .empty⟩, gap], noon⟩
    let events : List Event :=
      [.batch [⟨.removeBlock "gap", ""⟩, ⟨.insertBlock gap none, ""⟩, ⟨.setName "Hello", ""⟩],
        .one (.select (some "body")),
        .one (.edit ⟨.addBlock .spacer none, "b1"⟩),
        .one (.saved ⟨⟨"d2"⟩, true⟩ ⟨"bob"⟩),
        .one (.edit ⟨.setBlockData "body" "content" (.string "Hi again"), ""⟩),
        .one (.edit ⟨.insertBlock gap (some 0), ""⟩)]
    let session := (start origin).meetAll events
    session.blockIds = ["body", "b1"] ∧
      "gap" ∈ (start origin).removed ((start origin).history events) ∧
      Blocks.validate session.document.blocks = .ok () := by
  intro noon gap origin events session
  have valid : Blocks.validate origin.blocks = .ok () := by decide
  have new : GeneratesNew (origin.blocks.map Block.id) ((start origin).history events) := by
    decide +kernel
  obtain ⟨kept, -, -⟩ := history_stays_valid origin events valid new
  exact ⟨by decide +kernel, by decide +kernel, by simpa only [session] using kept⟩

end BlockMail.EditSession
