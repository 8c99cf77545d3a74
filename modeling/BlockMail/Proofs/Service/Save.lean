import BlockMail.Proofs.Service.Protocol
import BlockMail.Proofs.Store.Readable
import BlockMail.Proofs.Template.Patch

/-!
# How a save ends

The ways in which a save ends when no other request comes between its calls, with
what each leaves in the store: nothing new, one entry revised, or one entry added. A
template that the store does not read back ends it ahead of all of them but the first.
-/

set_option autoImplicit false

namespace BlockMail.Service

/-- The entry that a patch makes of an entry, at a new time: each field is that of
the patch or, where the patch leaves it out, the one it was. -/
structure Revised (patch : DocumentPatch) (now : Time.Instant)
    (old new : Store.Entry) : Prop where
  id : new.id = old.id
  owner : new.owner = old.owner
  forkedFrom : new.forkedFrom = old.forkedFrom
  name : new.name = patch.name.getD old.name
  category : new.category = patch.category.getD old.category
  subject : new.subject = patch.subject.getD old.subject
  description : new.description =
    (patch.description.map nonEmptyText?).getD old.description
  visibility : new.visibilityName =
    (patch.visibility.map Visibility.name).getD old.visibilityName
  keptBlocks : patch.payload? = none → new.blocks = old.blocks
  newBlocks : ∀ payload, patch.payload? = some payload →
    ∃ blocks, Blocks.decodeValid payload = .ok blocks ∧ new.Holds blocks
  dated : new.Dated now

/-- The private entry that a patch by another user makes of a record. -/
structure Forked (patch : DocumentPatch) (record : DocumentRecord)
    (origin fresh : DocumentId) (requester : UserId) (made : Time.Instant)
    (new : Store.Entry) : Prop where
  id : new.id = fresh
  owner : new.owner = requester
  forkedFrom : new.forkedFrom = some origin
  visibility : new.visibilityName = Visibility.ownerOnly.name
  name : new.name = patch.name.getD record.name
  category : new.category = patch.category.getD record.category
  subject : new.subject = patch.subject.getD record.subject
  description : new.description =
    (patch.description.map nonEmptyText?).getD record.description
  keptBlocks : patch.payload? = none →
    ∃ blocks, Blocks.decode record.blocks = .ok blocks ∧ new.Holds blocks
  newBlocks : ∀ payload, patch.payload? = some payload →
    ∃ blocks, Blocks.decodeValid payload = .ok blocks ∧ new.Holds blocks
  dated : new.Dated made

section Saving

variable (store : Store) (id : DocumentId) (requester : UserId)
  (patch : DocumentPatch) (fresh : DocumentId) (made now : Time.Instant)

/-- The ways in which a save ends, with the store after it. Their conditions
exclude each other. -/
inductive SaveEnds : Store → Except ServiceError SaveOutcome → Prop where
  | missing : store.entryAt? id = none →
      SaveEnds store (.error (.notFound id))
  | invalid {entry : Store.Entry} {cause : BlocksError} :
      store.entryAt? id = some entry → patch.toUpdate = .error cause →
      SaveEnds store (.error (.invalidBlocks cause))
  | inPlace {entry revised : Store.Entry} {update : FieldUpdate} {after : Store} :
      store.entryAt? id = some entry → patch.toUpdate = .ok update →
      entry.owner = requester →
      after.entryAt? id = some revised → Revised patch now entry revised →
      (∀ other, other ≠ id → after.entryAt? other = store.entryAt? other) →
      SaveEnds after (.ok ⟨id, false⟩)
  | hidden {entry : Store.Entry} {record : DocumentRecord} {update : FieldUpdate} :
      store.entryAt? id = some entry → entry.read = .ok record →
      patch.toUpdate = .ok update → entry.owner ≠ requester →
      record.visibility = .ownerOnly →
      SaveEnds store (.error (.forbidden id))
  | unreadable {entry : Store.Entry} {record : DocumentRecord}
      {update : FieldUpdate} {cause : BlocksError} :
      store.entryAt? id = some entry → entry.read = .ok record →
      patch.toUpdate = .ok update → entry.owner ≠ requester →
      record.visibility = .everyone → patch.payload? = none →
      Blocks.decode record.blocks = .error cause →
      SaveEnds store (.error (.unreadable id cause))
  | forked {entry copy : Store.Entry} {record : DocumentRecord}
      {update : FieldUpdate} {after : Store} :
      store.entryAt? id = some entry → entry.read = .ok record →
      patch.toUpdate = .ok update → entry.owner ≠ requester →
      record.visibility = .everyone →
      after.entryAt? fresh = some copy →
      Forked patch record id fresh requester made copy →
      (∀ other, other ≠ fresh → after.entryAt? other = store.entryAt? other) →
      SaveEnds after (.ok ⟨fresh, true⟩)

end Saving

/-- The ways exclude each other. -/
theorem SaveEnds.result_unique {store : Store} {id : DocumentId}
    {requester : UserId} {patch : DocumentPatch} {fresh : DocumentId}
    {made now : Time.Instant} {after otherAfter : Store}
    {result other : Except ServiceError SaveOutcome}
    (ends : SaveEnds store id requester patch fresh made now after result)
    (otherwise : SaveEnds store id requester patch fresh made now otherAfter other) :
    result = other := by
  cases ends <;> cases otherwise <;> simp_all
  -- What remains is a fork of blocks that do not decode.
  all_goals
    obtain ⟨_, decoded, _⟩ := ‹Forked _ _ _ _ _ _ _›.keptBlocks ‹_›
    simp_all

/-! ## The calls of a save -/

/-- No request changes the kind of the store. -/
theorem World.backend_run {Result : Type} (world : World) (now : Time.Instant)
    (program : Program (Except ServiceError Result)) :
    (world.run now program).1.store.backend = world.store.backend := by
  induction program generalizing world with
  | finish result => rfl
  | call query next ih =>
      simp only [World.run]
      cases behaves : world.faults (kindOf query) with
      | none =>
          simp only [World.perform, behaves]
          rw [ih]
          exact Store.backend_perform _ _ _
      | some fault =>
          cases fault with
          | crash description => simp only [World.perform, behaves]
          | nothing | failure =>
              simp only [World.perform, behaves]
              rw [ih]
  | deliver mail next ih => exact ih _ _

theorem run_stored (store : Store) (transport : Mail.MemoryTransport)
    (now : Time.Instant) (id : DocumentId) :
    (World.ofStore store transport).run now (stored id).run =
      (.ofStore store transport, lookedUp id (store.get? id)) := by
  unfold stored
  rw [World.run_bind, World.run_ask]
  simp only [Store.perform]
  cases store.get? id with
  | error failure => rfl
  | ok found => cases found <;> rfl

/-- The change by the owner that ends a save in place. -/
theorem run_revision {store : Store} (transport : Mail.MemoryTransport)
    (now : Time.Instant) {id : DocumentId} {requester : UserId} (update : FieldUpdate)
    (owns : store.owns requester id = true) :
    (World.ofStore store transport).run now
        (do
          let affected ← Request.ask (.updateOwned id requester update)
          if affected = 0 then throw (.notFound id) else return ⟨id, false⟩ :
          Request SaveOutcome).run =
      (.ofStore (store.perform now (.updateOwned id requester update)).1 transport,
        .ok ⟨id, false⟩) := by
  rw [World.run_bind, World.run_ask, Store.reply_updateOwned, owns]
  rfl

/-- The insertion under a free identifier that ends a fork. -/
theorem run_addition {store : Store} (transport : Mail.MemoryTransport)
    (now : Time.Instant) {document : Document}
    (absent : store.entryAt? document.id = none) :
    (World.ofStore store transport).run now
        (do return ⟨← Request.ask (.insert document), true⟩ :
          Request SaveOutcome).run =
      (.ofStore (store.perform now (.insert document)).1 transport,
        .ok ⟨document.id, true⟩) := by
  rw [World.run_bind, World.run_ask, Store.reply_insert_of_absent absent]
  rfl

@[simp] theorem forkWith_id (record : DocumentRecord) (origin : DocumentId)
    (update : FieldUpdate) (blocks : List Block) (requester : UserId)
    (fresh : DocumentId) (made : Time.Instant) :
    (forkWith record origin update blocks requester fresh made).id = fresh := rfl

theorem revised_updated {patch : DocumentPatch} {update : FieldUpdate}
    (accepted : patch.toUpdate = .ok update) (entry : Store.Entry)
    (now : Time.Instant) : Revised patch now entry (entry.updated update now) := by
  obtain ⟨fields, kept, carried⟩ := DocumentPatch.blocks_of_toUpdate accepted
  rw [fields]
  cases entry with
  | structured record =>
      refine ⟨rfl, rfl, rfl, rfl, rfl, rfl, rfl, ?_, ?_, ?_, rfl⟩
      · change (patch.visibility.getD record.visibility).name = _
        cases patch.visibility <;> rfl
      · intro absent
        simp [Store.Entry.updated, Store.Entry.blocks, DocumentRecord.updated,
          DocumentPatch.update, kept absent]
      · intro payload given
        obtain ⟨blocks, decoded, set⟩ := carried payload given
        refine ⟨blocks, decoded, ?_⟩
        simp [Store.Entry.updated, Store.Entry.Holds, DocumentRecord.updated,
          DocumentPatch.update, set]
  | text row =>
      refine ⟨rfl, rfl, rfl, rfl, rfl, rfl, rfl, rfl, ?_, ?_, rfl⟩
      · intro absent
        simp [Store.Entry.updated, Store.Entry.blocks, Store.Row.updated,
          DocumentPatch.update, kept absent]
      · intro payload given
        obtain ⟨blocks, decoded, set⟩ := carried payload given
        refine ⟨blocks, decoded, ?_⟩
        simp [Store.Entry.updated, Store.Entry.Holds, Store.Row.updated,
          DocumentPatch.update, set]

section BlocksOver

variable {patch : DocumentPatch} {update : FieldUpdate} {record : DocumentRecord}
  {blocks : List Block}

/-- The blocks of an accepted payload are those that the save starts from. -/
theorem blocksOver_of_payload {payload : Json} (accepted : patch.toUpdate = .ok update)
    (chosen : blocksOver record update = .ok blocks) (given : patch.payload? = some payload) :
    Blocks.decodeValid payload = .ok blocks := by
  obtain ⟨_, _, carried⟩ := DocumentPatch.blocks_of_toUpdate accepted
  obtain ⟨own, decoded, set⟩ := carried payload given
  simp only [blocksOver, set, Except.ok.injEq] at chosen
  rw [decoded, chosen]

theorem blocksOver_of_none (accepted : patch.toUpdate = .ok update)
    (given : patch.payload? = none) : blocksOver record update = Blocks.decode record.blocks := by
  obtain ⟨_, kept, _⟩ := DocumentPatch.blocks_of_toUpdate accepted
  simp only [blocksOver, kept given]

theorem forked_ofDocument (accepted : patch.toUpdate = .ok update)
    (found : blocksOver record update = .ok blocks)
    (backend : Store.Backend) (id fresh : DocumentId) (requester : UserId)
    (made : Time.Instant) :
    Forked patch record id fresh requester made
      (.ofDocument backend
        (forkWith record id update blocks requester fresh made)) := by
  have holds : (Store.Entry.ofDocument backend
      (forkWith record id update blocks requester fresh made)).Holds blocks := by
    have chosen := blocks_forkWith found id fresh requester made
    cases backend <;>
      simp [Store.Entry.ofDocument, Store.Entry.Holds, Document.toRecord, Store.Row.ofDocument,
        chosen]
  have keptBlocks (absent : patch.payload? = none) :
      Blocks.decode record.blocks = .ok blocks := by
    rw [← blocksOver_of_none accepted absent]
    exact found
  rw [(DocumentPatch.blocks_of_toUpdate accepted).1] at holds ⊢
  cases backend with
  | memory =>
      exact ⟨rfl, rfl, rfl, rfl, rfl, rfl, rfl, rfl,
        fun absent => ⟨blocks, keptBlocks absent, holds⟩,
        fun _ given => ⟨blocks, blocksOver_of_payload accepted found given, holds⟩, rfl⟩
  | table =>
      exact ⟨rfl, rfl, rfl, rfl, rfl, rfl, rfl, rfl,
        fun absent => ⟨blocks, keptBlocks absent, holds⟩,
        fun _ given => ⟨blocks, blocksOver_of_payload accepted found given, holds⟩, rfl⟩

/-- Where the blocks of a fork are wanting, the patch carries none and those of the
record do not decode. -/
theorem blocksOver_error (accepted : patch.toUpdate = .ok update) {cause : BlocksError}
    (wanting : blocksOver record update = .error cause) :
    patch.payload? = none ∧ Blocks.decode record.blocks = .error cause := by
  cases given : patch.payload? with
  | none =>
      rw [blocksOver_of_none accepted given] at wanting
      exact ⟨rfl, wanting⟩
  | some payload =>
      obtain ⟨_, _, carried⟩ := DocumentPatch.blocks_of_toUpdate accepted
      obtain ⟨own, _, set⟩ := carried payload given
      simp [blocksOver, set] at wanting

end BlocksOver

/-- A template that the store does not read back cannot be saved. -/
theorem run_save_of_damaged {store : Store} {id : DocumentId} {failure : Store.Failure}
    (damaged : store.damage? id = some failure) (transport : Mail.MemoryTransport)
    (now : Time.Instant) (requester : UserId) (patch : DocumentPatch) (fresh : DocumentId)
    (made : Time.Instant) :
    (World.ofStore store transport).run now (save id requester patch fresh made).run =
      (.ofStore store transport, .error (.store failure)) := by
  unfold save
  rw [World.run_bind, run_stored, Store.get?_eq_error.2 damaged]
  rfl

/-- A save of any other template ends in one of these ways. -/
theorem run_save_ends {store : Store} {id : DocumentId} (whole : store.damage? id = none)
    (transport : Mail.MemoryTransport) (now : Time.Instant) (requester : UserId)
    (patch : DocumentPatch) {fresh : DocumentId} (made : Time.Instant)
    (absent : store.entryAt? fresh = none) :
    ∃ after result,
      (World.ofStore store transport).run now
        (save id requester patch fresh made).run =
          (.ofStore after transport, result) ∧
      SaveEnds store id requester patch fresh made now after result := by
  unfold save
  rw [World.run_bind, run_stored, Store.get?_eq]
  cases found : store.entryAt? id with
  | none => exact ⟨_, _, rfl, .missing found⟩
  | some entry =>
      obtain ⟨record, read⟩ := Store.read_of_damage?_eq_none found whole
      simp only [read, Except.map, lookedUp]
      rw [World.run_bind]
      cases accepted : patch.toUpdate with
      | error cause => exact ⟨_, _, rfl, .invalid found accepted⟩
      | ok update =>
          simp only [World.run_ofExcept_ok, (Store.Entry.readsAs read).owner]
          split
          · rename_i owned
            have owns : store.owns requester id = true :=
              Store.owns_iff.2 ⟨entry, found, owned⟩
            have revised := run_revision transport now update owns
            refine ⟨_, _, revised, .inPlace found accepted owned ?_
              (revised_updated accepted entry now) ?_⟩
            · simp [Store.entryAt?_perform, Store.Call.effect, found, owned]
            · intro other different
              simp [Store.entryAt?_perform, Store.Call.effect, different]
          · rename_i foreign
            split
            · rename_i hidden
              exact ⟨_, _, rfl, .hidden found read accepted foreign hidden⟩
            · rename_i shown
              have shown := Visibility.everyone_of_ne shown
              rw [World.run_bind, forkBlocks_eq]
              cases chosen : blocksOver record update with
              | error cause =>
                  obtain ⟨none, unreadable⟩ := blocksOver_error accepted chosen
                  exact ⟨_, _, rfl, .unreadable found read accepted foreign shown
                    none unreadable⟩
              | ok blocks =>
                  have free : store.entryAt?
                      (forkWith record id update blocks requester fresh made).id =
                        none := absent
                  have added := run_addition transport now free
                  refine ⟨_, _, added, .forked found read accepted foreign shown ?_
                    (forked_ofDocument accepted chosen store.backend id fresh
                      requester made) ?_⟩
                  · simp [Store.entryAt?_perform, Store.Call.effect, absent]
                  · intro other different
                    simp [Store.entryAt?_perform, Store.Call.effect, different]

/-- A save ends in exactly one of these ways, unless the template is in a row that is not
read back. Then it fails and changes nothing. -/
theorem run_save (store : Store) (transport : Mail.MemoryTransport)
    (now : Time.Instant) (id : DocumentId) (requester : UserId)
    (patch : DocumentPatch) (fresh : DocumentId) (made : Time.Instant)
    (absent : store.entryAt? fresh = none) :
    (store.damage? id = none → ∃ after result,
      (World.ofStore store transport).run now
        (save id requester patch fresh made).run =
          (.ofStore after transport, result) ∧
      SaveEnds store id requester patch fresh made now after result ∧
      ∀ otherAfter other,
        SaveEnds store id requester patch fresh made now otherAfter other →
        other = result) ∧
    ∀ failure, store.damage? id = some failure →
      (World.ofStore store transport).run now
        (save id requester patch fresh made).run =
          (.ofStore store transport, .error (.store failure)) := by
  constructor
  · intro whole
    obtain ⟨after, result, ran, ends⟩ :=
      run_save_ends whole transport now requester patch made absent
    exact ⟨after, result, ran, ends,
      fun _ _ otherwise => otherwise.result_unique ends⟩
  · intro failure damaged
    exact run_save_of_damaged damaged transport now requester patch fresh made

/-- A stranger saves a new name for a public template. -/
theorem run_save_by_stranger :
    let noon : Time.Instant := ⟨⟨2024, 5, 1, by decide⟩, 720, 0, 0, by decide⟩
    let record : DocumentRecord := ⟨⟨"d1"⟩, ⟨"ada"⟩, "Welcome", "", "", none, .everyone,
      none, .array [], noon⟩
    let store : Store := .memory (Store.MemoryStore.empty.put record)
    let patch : DocumentPatch := ⟨some "Hello", none, none, none, none, none⟩
    store.entryAt? ⟨"d2"⟩ = none ∧ store.damage? ⟨"d1"⟩ = none ∧
      ∃ after result,
        (World.ofStore store .empty).run noon
          (save ⟨"d1"⟩ ⟨"bob"⟩ patch ⟨"d2"⟩ noon).run = (.ofStore after .empty, result) ∧
        SaveEnds store ⟨"d1"⟩ ⟨"bob"⟩ patch ⟨"d2"⟩ noon noon after result ∧
        ∀ otherAfter other,
          SaveEnds store ⟨"d1"⟩ ⟨"bob"⟩ patch ⟨"d2"⟩ noon noon otherAfter other →
          other = result := by
  intro noon record store patch
  have absent : store.entryAt? ⟨"d2"⟩ = none := by decide
  have whole : store.damage? ⟨"d1"⟩ = none := rfl
  exact ⟨absent, whole,
    (run_save store .empty noon ⟨"d1"⟩ ⟨"bob"⟩ patch ⟨"d2"⟩ noon absent).1 whole⟩

/-- The owner of a mail of the year 10000 renames it. A table has its row and the patch is
accepted, but the save ends in none of these ways. -/
theorem run_save_in_year_10000 :
    let noon : Time.Instant := ⟨⟨2024, 5, 1, by decide⟩, 720, 0, 0, by decide⟩
    let late : Time.Instant := ⟨⟨10000, 1, 1, by decide⟩, 59, 59, 0, by decide⟩
    let welcome : Document := ⟨⟨"t1"⟩, ⟨"ada"⟩, "Welcome", "News", "Hi", none, .everyone, none,
      [], late⟩
    let store := (Store.empty .table).after [(noon, .made (.insert welcome))]
    let patch : DocumentPatch := ⟨some "May", none, none, none, none, none⟩
    store.entryAt? ⟨"t1"⟩ = some (.ofDocument .table welcome) ∧
      store.entryAt? ⟨"t2"⟩ = none ∧ patch.toUpdate = .ok (patch.update none) ∧
      ∃ result,
        (World.ofStore store .empty).run noon
          (save ⟨"t1"⟩ ⟨"ada"⟩ patch ⟨"t2"⟩ noon).run = (.ofStore store .empty, result) ∧
        ∀ after, ¬SaveEnds store ⟨"t1"⟩ ⟨"ada"⟩ patch ⟨"t2"⟩ noon noon after result := by
  intro noon late welcome store patch
  have held : Store.catalogue [(noon, .made (.insert welcome))] ⟨"t1"⟩ = some welcome := rfl
  have damaged : store.damage? ⟨"t1"⟩ = some (Store.signedTime 9) :=
    Store.damage?_of_signed held (by decide)
  refine ⟨rfl, rfl, rfl, _,
    run_save_of_damaged damaged .empty noon ⟨"ada"⟩ patch ⟨"t2"⟩ noon, ?_⟩
  intro after ends
  cases ends

end BlockMail.Service
