import BlockMail.Proofs.Service.Schedule
import BlockMail.Proofs.Store.Rows
import BlockMail.Proofs.Template.Patch
import BlockMail.Proofs.Template.Validity

/-!
# What the service stores

Whatever requests were made of it, the service stores blocks that passed the check
and descriptions that are not empty. A fork that takes over stored blocks does not
check them again, so the invariant runs through what was read as well. Tables keep
text; there the invariant rests on the text being parsed to what was written.
-/

set_option autoImplicit false

namespace BlockMail

namespace Store

def Call.blocks? : Call → Option (List Block)
  | .insert document => some document.blocks
  | .updateOwned _ _ update => update.blocks
  | .get _ | .list _ | .deleteOwned _ _ => none

/-- Blocks that can be stored, which a store of a kind gives back as they are. -/
structure Keeps (backend : Backend) (blocks : List Block) : Prop where
  storable : Blocks.Storable blocks
  reparses : backend = .table → Blocks.Reparses blocks

/-- An entry under its own identifier, with blocks that passed the check and
without an empty description. -/
structure Entry.Sound (backend : Backend) (id : DocumentId) (entry : Entry) : Prop where
  named : entry.id = id
  described : entry.description ≠ some ""
  blocks : ∃ blocks, entry.Holds blocks ∧ Keeps backend blocks

def Sound (store : Store) : Prop :=
  ∀ id entry, store.entryAt? id = some entry → entry.Sound store.backend id

/-- A record with blocks that can be stored, if they decode. -/
structure SoundRecord (record : DocumentRecord) : Prop where
  described : record.description ≠ some ""
  storable : ∀ blocks, Blocks.decode record.blocks = .ok blocks →
    Blocks.Storable blocks

/-- A call that writes nothing but sound entries. -/
def Call.WritesSound : Call → Prop
  | .get _ | .list _ | .deleteOwned _ _ => True
  | .insert document =>
      Blocks.Storable document.blocks ∧ document.description ≠ some ""
  | .updateOwned _ _ update =>
      (∀ blocks, update.blocks = some blocks → Blocks.Storable blocks) ∧
        update.description ≠ some (some "")

/-- An entry under its own identifier, with blocks of some kind and without an empty
description. -/
structure Entry.Bears (kind : List Block → Prop) (id : DocumentId) (entry : Entry) :
    Prop where
  named : entry.id = id
  described : entry.description ≠ some ""
  blocks : ∃ blocks, entry.Holds blocks ∧ kind blocks

section Bears

variable {kind : List Block → Prop}

theorem bears_ofDocument {document : Document} (blocks : kind document.blocks)
    (described : document.description ≠ some "") (backend : Backend) :
    (Entry.ofDocument backend document).Bears kind document.id := by
  cases backend with
  | memory => exact ⟨rfl, described, document.blocks, rfl, blocks⟩
  | table => exact ⟨rfl, described, document.blocks, rfl, blocks⟩

theorem Entry.Bears.updated {id : DocumentId} {entry : Entry} (bears : entry.Bears kind id)
    {update : FieldUpdate} (now : Time.Instant)
    (kept : ∀ blocks, update.blocks = some blocks → kind blocks)
    (described : update.description ≠ some (some "")) :
    (entry.updated update now).Bears kind id := by
  obtain ⟨named, oldDescribed, old, holds, oldKind⟩ := bears
  have description : (entry.updated update now).description =
      update.description.getD entry.description := by
    cases entry <;> rfl
  refine ⟨by rw [Entry.id_updated, named], ?_, ?_⟩
  · rw [description]
    cases given : update.description with
    | none => exact oldDescribed
    | some text =>
        intro empty
        exact described (given.trans (congrArg some empty))
  · cases given : update.blocks with
    | none =>
        refine ⟨old, ?_, oldKind⟩
        cases entry <;>
          simpa [Entry.updated, Entry.Holds, DocumentRecord.updated, Row.updated, given]
            using holds
    | some blocks =>
        refine ⟨blocks, ?_, kept blocks given⟩
        cases entry <;>
          simp [Entry.updated, Entry.Holds, DocumentRecord.updated, Row.updated, given]

/-- A call that writes nothing but sound entries keeps every entry to a kind of blocks
that its own blocks are of. -/
theorem bears_perform {store : Store}
    (bears : ∀ id entry, store.entryAt? id = some entry → entry.Bears kind id)
    (now : Time.Instant) {call : Call} (writes : call.WritesSound)
    (kept : ∀ blocks, call.blocks? = some blocks → kind blocks)
    {id : DocumentId} {entry : Entry}
    (found : (store.perform now call).1.entryAt? id = some entry) : entry.Bears kind id := by
  rw [entryAt?_perform] at found
  cases before : store.entryAt? id with
  | none =>
      rw [before] at found
      obtain ⟨document, rfl, rfl, rfl⟩ := effect_none found
      exact bears_ofDocument (kept document.blocks rfl) writes.2 store.backend
  | some old =>
      rw [before] at found
      have oldBears := bears id old before
      by_cases changed : call.effect store.backend now id (some old) = some old
      · rw [changed] at found
        cases found
        exact oldBears
      · rcases effect_some changed with ⟨update, rfl, updated⟩ | ⟨_, removed⟩
        · rw [updated] at found
          cases found
          exact oldBears.updated now kept writes.2
        · rw [removed] at found
          cases found

end Bears

theorem Call.WritesSound.storable {call : Call} (writes : call.WritesSound)
    {blocks : List Block} (given : call.blocks? = some blocks) : Blocks.Storable blocks := by
  cases call with
  | get | list | deleteOwned => cases given
  | insert document =>
      cases given
      exact writes.1
  | updateOwned id requester update => exact writes.1 blocks given

/-- A call that writes nothing but sound entries keeps a store sound. -/
theorem Sound.perform {store : Store} (sound : store.Sound) (now : Time.Instant)
    {call : Call} (writes : call.WritesSound)
    (reparses : ∀ blocks, call.blocks? = some blocks → store.backend = .table →
      Blocks.Reparses blocks) :
    (store.perform now call).1.Sound := by
  have bears (id : DocumentId) (entry : Entry) (found : store.entryAt? id = some entry) :
      entry.Bears (Keeps store.backend) id :=
    ⟨(sound id entry found).named, (sound id entry found).described,
      (sound id entry found).blocks⟩
  intro id entry found
  have after := bears_perform bears now writes
    (fun blocks given => ⟨writes.storable given, reparses blocks given⟩) found
  rw [backend_perform]
  exact ⟨after.named, after.described, after.blocks⟩

theorem Entry.Holds.decodes {store : Store} {id : DocumentId} {entry : Entry}
    {blocks : List Block} (holds : entry.Holds blocks)
    (found : store.entryAt? id = some entry)
    (reparses : store.backend = .table → Blocks.Reparses blocks) :
    Blocks.decode entry.blocks = .ok blocks := by
  cases entry with
  | structured kept =>
      simp only [Holds] at holds
      simp only [Entry.blocks, holds, Blocks.decode_toJson]
  | text row =>
      simp only [Holds] at holds
      simp only [Entry.blocks, holds]
      exact Blocks.decode_text (reparses (backend_of_text found))

theorem Entry.Sound.decodes {store : Store} {id : DocumentId} {entry : Entry}
    {record : DocumentRecord} (found : store.entryAt? id = some entry)
    (sound : entry.Sound store.backend id) (read : entry.read = .ok record) :
    ∃ blocks, Blocks.decode record.blocks = .ok blocks ∧ Blocks.Storable blocks ∧
      entry.Holds blocks := by
  obtain ⟨_, _, blocks, holds, keeps⟩ := sound
  have decodes := holds.decodes found keeps.reparses
  rw [← (readsAs read).blocks] at decodes
  exact ⟨blocks, decodes, keeps.storable, holds⟩

/-- The record that is read from a sound store is sound. -/
theorem Sound.record {store : Store} (sound : store.Sound) {id : DocumentId}
    {record : DocumentRecord} (given : store.get? id = .ok (some record)) :
    SoundRecord record := by
  obtain ⟨entry, found, read⟩ := get?_eq_some.1 given
  have entrySound := sound id entry found
  obtain ⟨blocks, decodes, storable, _⟩ := entrySound.decodes found read
  refine ⟨?_, ?_⟩
  · rw [(Entry.readsAs read).description]
    exact entrySound.described
  · intro others decoded
    rw [decodes] at decoded
    cases decoded
    exact storable

end Store

namespace Service

/-- Requests that write nothing but sound entries, as long as they read nothing
else. -/
def sound : Protocol Unit where
  permits _ call := call.WritesSound
  delivers _ := True
  expects _ call reply :=
    match call, reply with
    | .get _, .ok (some record) => Store.SoundRecord record
    | _, _ => True
  advance _ _ _ := ()

def KeepsSound (program : Program (Except ServiceError Answer)) : Prop :=
  program.Follows sound (fun _ _ => True) ()

theorem storable_starter : Blocks.Storable Starter.blocks :=
  (Blocks.validate_iff _).1 (by decide)

theorem toDocument_sound {input : NewDocument} {id : DocumentId} {owner : UserId}
    {now : Time.Instant} {document : Document}
    (made : input.toDocument id owner now = .ok document) :
    Blocks.Storable document.blocks ∧ document.description ≠ some "" := by
  obtain ⟨chosen, _, _, description⟩ := NewDocument.blocks_of_toDocument made
  refine ⟨?_, ?_⟩
  · unfold NewDocument.chosenBlocks at chosen
    split at chosen
    · exact (Blocks.decodeValid_eq_ok.1 chosen).2
    · rw [← Except.ok.inj chosen]
      exact storable_starter
  · rw [description]
    cases input.description with
    | none => simp
    | some text => exact nonEmptyText?_ne text

theorem toUpdate_sound {patch : DocumentPatch} {update : FieldUpdate}
    (accepted : patch.toUpdate = .ok update) :
    (∀ blocks, update.blocks = some blocks → Blocks.Storable blocks) ∧
      update.description ≠ some (some "") := by
  refine ⟨?_, ?_⟩
  · intro blocks given
    obtain ⟨_, _, decoded⟩ := DocumentPatch.payload_of_blocks accepted given
    exact (Blocks.decodeValid_eq_ok.1 decoded).2
  · rw [(DocumentPatch.blocks_of_toUpdate accepted).1]
    cases given : patch.description with
    | none => simp [DocumentPatch.update, given]
    | some text => simpa [DocumentPatch.update, given] using nonEmptyText?_ne text

theorem forkWith_sound {record : DocumentRecord} (sound : Store.SoundRecord record)
    {patch : DocumentPatch} {update : FieldUpdate}
    (accepted : patch.toUpdate = .ok update) {blocks : List Block}
    (chosen : blocksOver record update = .ok blocks) (id fresh : DocumentId)
    (requester : UserId) (made : Time.Instant) :
    let fork := forkWith record id update blocks requester fresh made
    Blocks.Storable fork.blocks ∧ fork.description ≠ some "" := by
  obtain ⟨storable, described⟩ := toUpdate_sound accepted
  refine ⟨?_, ?_⟩
  · rw [blocks_forkWith chosen]
    rcases blocksOver_cases chosen with given | ⟨_, decoded⟩
    · exact storable blocks given
    · exact sound.storable blocks decoded
  · cases given : update.description with
    | none =>
        simpa [forkWith, FieldUpdate.applyTo, forkOf, given] using sound.described
    | some text =>
        intro empty
        simp only [forkWith, FieldUpdate.applyTo, given, Option.getD_some] at empty
        exact described (given.trans (congrArg some empty))

theorem program_keepsSound (service : Service) (requester : UserId)
    (operation : Operation) : KeepsSound (operation.program service requester) := by
  have free : sound.ReadsFreely () :=
    ⟨fun _ => trivial, fun _ => trivial, fun _ _ => rfl, fun _ _ => rfl, trivial⟩
  cases operation with
  | create input fresh made =>
      apply Request.Follows.bind
      apply follows_create
      · intro _ outcome _
        cases outcome <;> trivial
      · intro document accepted
        exact toDocument_sound accepted
  | save id patch fresh made =>
      apply Request.Follows.bind
      apply follows_save
      · intro _ outcome _
        cases outcome <;> trivial
      · intro _ _ _ _ _
        trivial
      · trivial
      · intro record update _ accepted _
        exact toUpdate_sound accepted
      · intro record update blocks expected accepted _ _ chosen
        exact forkWith_sound expected accepted chosen id fresh requester made
  | delete id =>
      apply Request.Follows.bind
      apply follows_delete
      · trivial
      · intro _
        trivial
      · intro _ _
        trivial
      · intro _ _
        exact ⟨trivial, fun _ => trivial⟩
  | fetch | list | categories | preview | send =>
      exact Operation.follows_of_reads trivial free (fun _ _ => trivial)
        fun _ _ _ _ _ => trivial

/-! ## Runs -/

namespace Shared

/-- The blocks that the call of a move writes. -/
def writes (shared : Shared) : Move → Option (List Block)
  | .start _ _ => none
  | .advance index _ _ =>
      match shared.requests[index]? with
      | some ⟨_, _, .call query _⟩ => query.blocks?
      | _ => none

/-- The blocks that the calls of a run write. -/
def written (service : Service) (shared : Shared) : List Move → List (List Block)
  | [] => []
  | move :: rest =>
      (shared.writes move).toList ++ (shared.step service move).written service rest

/-- A store with a property, at which every request follows a protocol. -/
structure Obeys (protocol : Protocol Unit) (ends : Except ServiceError Answer → Prop)
    (property : Store → Prop) (shared : Shared) : Prop where
  store : property shared.store
  requests : ∀ (position : Nat) (running : Running),
    shared.requests[position]? = some running →
    running.rest.Follows protocol (fun _ => ends) ()

/-- What a move keeps, when the requests that begin follow the protocol, and the store
keeps its property and answers as expected. -/
theorem Obeys.preserved {protocol : Protocol Unit} {ends : Except ServiceError Answer → Prop}
    {property : Store → Prop} {service : Service} {before after : Shared} {move : Move}
    (obeys : before.Obeys protocol ends property)
    (transition : Transition service before move after)
    (begins : ∀ requester operation, move = .start requester operation →
      (operation.program service requester).Follows protocol (fun _ => ends) ())
    (performs : ∀ now call, protocol.permits () call →
      before.writes move = call.blocks? →
      property (before.store.perform now call).1 ∧
        protocol.expects () call (before.store.perform now call).2) :
    after.Obeys protocol ends property := by
  have permitted {index : Nat} {now : Time.Instant} {running : Running} {query : Store.Call}
      {handover : Except Mail.TransportError Mail.Delivery}
      {next : Except Store.Failure query.Reply → Program (Except ServiceError Answer)}
      (own : move = .advance index now handover)
      (here : before.requests[index]? = some running) (left : running.rest = .call query next) :
      protocol.permits () query ∧ before.writes move = query.blocks? := by
    have follows := obeys.requests _ _ here
    rw [left] at follows
    refine ⟨follows.1, ?_⟩
    obtain ⟨requester, operation, rest⟩ := running
    cases (left : rest = _)
    simp only [own, writes, here]
  refine ⟨?_, ?_⟩
  · cases transition with
    | idle | started | delivered => exact obeys.store
    | called here left =>
        obtain ⟨permit, written⟩ := permitted rfl here left
        exact (performs _ _ permit written).1
  · intro position running there
    cases transition.origin there with
    | waiting here => exact obeys.requests position running here
    | started => exact begins _ _ rfl
    | called here left =>
        obtain ⟨permit, written⟩ := permitted rfl here left
        have follows := obeys.requests position _ here
        rw [left] at follows
        exact follows.2 _ (performs _ _ permit written).2
    | delivered here left =>
        have follows := obeys.requests position _ here
        rw [left] at follows
        exact follows.2 _

/-- A sound store at which every request keeps to sound entries. -/
structure Sound (shared : Shared) : Prop where
  store : shared.store.Sound
  requests : ∀ (position : Nat) (running : Running),
    shared.requests[position]? = some running → KeepsSound running.rest

theorem sound_initial (backend : Store.Backend) : (initial backend).Sound := by
  refine ⟨?_, ?_⟩
  · intro id entry found
    simp [initial] at found
  · intro position running there
    simp [initial] at there

theorem answer_sound {store : Store} (stored : store.Sound) (now : Time.Instant)
    (call : Store.Call) : sound.expects () call (store.perform now call).2 := by
  cases call with
  | get id =>
      simp only [sound, Store.perform]
      cases read : store.get? id with
      | error failure => trivial
      | ok found =>
          cases found with
          | none => trivial
          | some record => exact stored.record read
  | list | insert | updateOwned | deleteOwned => trivial

theorem Sound.preserved {service : Service} {before after : Shared} {move : Move}
    (holds : before.Sound) (transition : Transition service before move after)
    (reparses : ∀ blocks, before.writes move = some blocks →
      before.store.backend = .table → Blocks.Reparses blocks) : after.Sound := by
  have obeys : before.Obeys sound (fun _ => True) Store.Sound :=
    ⟨holds.store, holds.requests⟩
  have kept := obeys.preserved transition
    (fun requester operation _ => program_keepsSound service requester operation)
    fun now call permit written =>
      ⟨holds.store.perform now permit fun blocks given =>
          reparses blocks (written.trans given),
        answer_sound holds.store now call⟩
  exact ⟨kept.store, kept.requests⟩

theorem Sound.after_run {service : Service} {shared : Shared} (holds : shared.Sound)
    (moves : List Move)
    (reparses : ∀ blocks ∈ shared.written service moves,
      shared.store.backend = .table → Blocks.Reparses blocks) :
    (shared.run service moves).Sound := by
  induction moves generalizing shared with
  | nil => exact holds
  | cons move rest ih =>
      have transition := step_transition service shared move
      have next := holds.preserved transition fun blocks given =>
        reparses blocks (List.mem_append_left _ (by simp [given]))
      refine ih next ?_
      intro blocks member
      rw [transition.backend]
      exact reparses blocks (List.mem_append_right _ member)

theorem sound_reached {service : Service} {backend : Store.Backend}
    {moves : List Move}
    (reparses : backend = .table →
      ∀ blocks ∈ (initial backend).written service moves, Blocks.Reparses blocks) :
    (reached service backend moves).store.Sound := by
  refine ((sound_initial backend).after_run moves ?_).store
  intro blocks member table
  exact reparses (by simpa [initial] using table) blocks member

end Shared

end Service

end BlockMail
