import BlockMail.Proofs.Service.Legible
import BlockMail.Proofs.Service.Reading

/-!
# Two ways of saving

The owner of a public template changes it in place, column by column; anybody else is
given a fork, which is built as a whole. The same patch leads to the same content on
both ways. Only where a table is left with the blocks it has, do the two part: the fork
holds a new text of the blocks, so their doubles are read once more than those of the
original.
-/

set_option autoImplicit false

namespace BlockMail

/-- Blocks that were read from a table are regular. -/
theorem Store.regular_of_stored {store : Store} {id : DocumentId} {entry : Store.Entry}
    {blocks : List Block} (found : store.entryAt? id = some entry)
    (decoded : Blocks.decode entry.blocks = .ok blocks) (table : store.backend = .table) :
    Blocks.Regular blocks := by
  cases entry with
  | structured record =>
      rw [backend_of_structured found] at table
      cases table
  | text row => exact Blocks.regular_of_text decoded

namespace Service

open Store

/-- A document with the texts that a patch leads to from those of a record, and with
these blocks. -/
structure Patched (patch : DocumentPatch) (record : DocumentRecord) (blocks : List Block)
    (document : Document) : Prop where
  name : document.name = patch.name.getD record.name
  category : document.category = patch.category.getD record.category
  subject : document.subject = patch.subject.getD record.subject
  description : document.description =
    (patch.description.map nonEmptyText?).getD record.description
  blocks : document.blocks = blocks

theorem fetched_of_owned {store : Store} {id : DocumentId} {entry : Entry} {requester : UserId}
    {visibility : Visibility} {now : Time.Instant} {blocks : List Block}
    (found : store.entryAt? id = some entry) (named : entry.visibilityName = visibility.name)
    (dated : entry.Dated now) (years : store.backend = .table → now.FourDigits)
    (owned : entry.owner = requester) (decodes : Blocks.decode entry.blocks = .ok blocks) :
    ∃ document, fetched store id requester = .ok document ∧ document.name = entry.name ∧
      document.category = entry.category ∧ document.subject = entry.subject ∧
      document.description = entry.description ∧ document.blocks = blocks := by
  obtain ⟨record, read⟩ :=
    Entry.damage?_eq_none.1 (Entry.damage?_of_dated found named dated years)
  have reads := Entry.readsAs read
  have built : Document.ofRecord record =
      .ok ⟨record.id, record.owner, record.name, record.category, record.subject,
        record.description, record.visibility, record.forkedFrom, blocks,
        record.updatedAt⟩ := by
    unfold Document.ofRecord
    rw [reads.blocks, decodes]
    rfl
  refine ⟨_, fetched_eq_ok.2 ⟨entry, record, found, read, ?_, built⟩, reads.name,
    reads.category, reads.subject, reads.description, rfl⟩
  simp [DocumentRecord.isVisibleTo, reads.owner, owned]

section Saving

variable {store after : Store} {id fresh : DocumentId} {entry : Entry}
  {record : DocumentRecord} {requester : UserId} {patch : DocumentPatch}
  {update : FieldUpdate} {blocks : List Block} {made now : Time.Instant}
  {result : Except ServiceError SaveOutcome}

/-- A save of an accepted patch for a public template whose blocks decode succeeds. -/
theorem SaveEnds.of_public
    (ends : SaveEnds store id requester patch fresh made now after result)
    (found : store.entryAt? id = some entry) (read : entry.read = .ok record)
    (accepted : patch.toUpdate = .ok update) (shown : record.visibility = .everyone)
    (decoded : Blocks.decode record.blocks = .ok blocks) :
    (entry.owner = requester ∧ result = .ok ⟨id, false⟩ ∧
      ∃ revised, after.entryAt? id = some revised ∧ Revised patch now entry revised) ∨
    (entry.owner ≠ requester ∧ result = .ok ⟨fresh, true⟩ ∧
      ∃ copy, after.entryAt? fresh = some copy ∧
        Forked patch record id fresh requester made copy) := by
  cases ends with
  | missing absent =>
      rw [found] at absent
      cases absent
  | invalid _ refused =>
      rw [accepted] at refused
      cases refused
  | hidden there again _ _ hidden =>
      rw [found] at there
      cases there
      rw [read] at again
      cases again
      rw [shown] at hidden
      cases hidden
  | unreadable there again _ _ _ _ undecoded =>
      rw [found] at there
      cases there
      rw [read] at again
      cases again
      rw [decoded] at undecoded
      cases undecoded
  | inPlace there _ owned kept revised =>
      rw [found] at there
      cases there
      exact .inl ⟨owned, rfl, _, kept, revised⟩
  | forked there again _ foreign _ kept forked =>
      rw [found] at there
      cases there
      rw [read] at again
      cases again
      exact .inr ⟨foreign, rfl, _, kept, forked⟩

theorem Forked.holds {copy : Entry} (forked : Forked patch record id fresh requester made copy)
    (accepted : patch.toUpdate = .ok update) (chosen : blocksOver record update = .ok blocks) :
    copy.Holds blocks := by
  cases given : patch.payload? with
  | none =>
      obtain ⟨own, decoded, holds⟩ := forked.keptBlocks given
      rw [blocksOver_of_none accepted given, decoded] at chosen
      cases chosen
      exact holds
  | some payload =>
      obtain ⟨own, decoded, holds⟩ := forked.newBlocks payload given
      rw [blocksOver_of_payload accepted chosen given] at decoded
      cases decoded
      exact holds

theorem regular_of_blocksOver (found : store.entryAt? id = some entry)
    (read : entry.read = .ok record) (accepted : patch.toUpdate = .ok update)
    (chosen : blocksOver record update = .ok blocks) (table : store.backend = .table) :
    Blocks.Regular blocks := by
  cases given : patch.payload? with
  | none =>
      rw [blocksOver_of_none accepted given, (Entry.readsAs read).blocks] at chosen
      exact regular_of_stored found chosen table
  | some payload =>
      have checked := blocksOver_of_payload accepted chosen given
      exact Blocks.regular_of_storable (Blocks.decodeValid_eq_ok.1 checked).2

/-- The owner of a template is given what the patch leads to. Blocks that the patch
leaves alone stay as they are stored. -/
theorem fetched_revised {revised : Entry} (reads : entry.ReadsAs record)
    (revision : Revised patch now entry revised) (kept : after.entryAt? id = some revised)
    (accepted : patch.toUpdate = .ok update) (chosen : blocksOver record update = .ok blocks)
    (regular : after.backend = .table → Blocks.Regular blocks)
    (years : after.backend = .table → now.FourDigits) :
    ∃ document, fetched after id record.owner = .ok document ∧
      Patched patch record
        (if patch.payload? = none then blocks else after.backend.readBack blocks) document := by
  have decodes : Blocks.decode revised.blocks =
      .ok (if patch.payload? = none then blocks else after.backend.readBack blocks) := by
    cases given : patch.payload? with
    | none =>
        rw [blocksOver_of_none accepted given] at chosen
        rw [revision.keptBlocks given, ← reads.blocks, chosen, if_pos rfl]
    | some payload =>
        obtain ⟨own, decoded, holds⟩ := revision.newBlocks payload given
        rw [blocksOver_of_payload accepted chosen given] at decoded
        cases decoded
        rw [holds.readBack kept regular, if_neg nofun]
  have named : revised.visibilityName = (patch.visibility.getD record.visibility).name := by
    rw [revision.visibility, ← reads.visibility]
    cases patch.visibility <;> rfl
  obtain ⟨document, given, name, category, subject, description, content⟩ :=
    fetched_of_owned kept named revision.dated years (revision.owner.trans reads.owner.symm)
      decodes
  refine ⟨document, given, ?_, ?_, ?_, ?_, content⟩
  · rw [name, revision.name, reads.name]
  · rw [category, revision.category, reads.category]
  · rw [subject, revision.subject, reads.subject]
  · rw [description, revision.description, reads.description]

/-- The owner of a fork is given what the patch leads to, from blocks written anew. -/
theorem fetched_forked {copy : Entry}
    (forked : Forked patch record id fresh requester made copy)
    (kept : after.entryAt? fresh = some copy) (accepted : patch.toUpdate = .ok update)
    (chosen : blocksOver record update = .ok blocks)
    (regular : after.backend = .table → Blocks.Regular blocks)
    (years : after.backend = .table → made.FourDigits) :
    ∃ document, fetched after fresh requester = .ok document ∧
      Patched patch record (after.backend.readBack blocks) document := by
  have decodes := (forked.holds accepted chosen).readBack kept regular
  obtain ⟨document, given, name, category, subject, description, content⟩ :=
    fetched_of_owned kept forked.visibility forked.dated years forked.owner decodes
  exact ⟨document, given, name.trans forked.name, category.trans forked.category,
    subject.trans forked.subject, description.trans forked.description, content⟩

end Saving

/-- An accepted patch for a public template whose blocks decode, saved by the owner or by
another user from the same store. What the one then fetches says the same as what the
other fetches, but when a patch without blocks is saved in a table: the fork then has the
blocks of the original with their numbers reread. -/
theorem saves_agree {store : Store} {id fresh : DocumentId} {entry : Entry}
    {record : DocumentRecord} {patch : DocumentPatch} {update : FieldUpdate}
    {blocks : List Block} {stranger : UserId} {made now : Time.Instant}
    (transport : Mail.MemoryTransport) (later : Time.Instant)
    (found : store.entryAt? id = some entry) (read : entry.read = .ok record)
    (shown : record.visibility = .everyone)
    (decoded : Blocks.decode record.blocks = .ok blocks)
    (accepted : patch.toUpdate = .ok update) (foreign : record.owner ≠ stranger)
    (absent : store.entryAt? fresh = none)
    (years : store.backend = .table → ∀ time ∈ [made, now], time.FourDigits) :
    ∃ changed grown original copy,
      (World.ofStore store transport).run now (save id record.owner patch fresh made).run =
        (.ofStore changed transport, .ok ⟨id, false⟩) ∧
      (World.ofStore changed transport).run later (fetch id record.owner).run =
        (.ofStore changed transport, .ok original) ∧
      (World.ofStore store transport).run now (save id stranger patch fresh made).run =
        (.ofStore grown transport, .ok ⟨fresh, true⟩) ∧
      (World.ofStore grown transport).run later (fetch fresh stranger).run =
        (.ofStore grown transport, .ok copy) ∧
      copy.name = original.name ∧ copy.category = original.category ∧
      copy.subject = original.subject ∧ copy.description = original.description ∧
      copy.blocks =
        if patch.payload? = none then store.backend.readBack original.blocks
        else original.blocks := by
  have reads := Entry.readsAs read
  obtain ⟨chosen, start⟩ : ∃ chosen, blocksOver record update = .ok chosen := by
    cases laid : blocksOver record update with
    | ok chosen => exact ⟨chosen, rfl⟩
    | error cause =>
        rw [(blocksOver_error accepted laid).2] at decoded
        cases decoded
  have regular (table : store.backend = .table) : Blocks.Regular chosen :=
    regular_of_blocksOver found read accepted start table
  have kind (requester : UserId) {after : Store} {result : Except ServiceError SaveOutcome}
      (ran : (World.ofStore store transport).run now
        (save id requester patch fresh made).run = (.ofStore after transport, result)) :
      after.backend = store.backend := by
    have kept := World.backend_run (.ofStore store transport) now
      (save id requester patch fresh made).run
    rw [ran] at kept
    exact kept
  have whole := damage?_of_read found read
  obtain ⟨changed, ownResult, ownRan, ownEnds⟩ :=
    run_save_ends whole transport now record.owner patch made absent
  obtain ⟨grown, otherResult, otherRan, otherEnds⟩ :=
    run_save_ends whole transport now stranger patch made absent
  rcases ownEnds.of_public found read accepted shown decoded with
    ⟨_, rfl, revised, keptRevised, revision⟩ | ⟨notOwner, _⟩
  · rcases otherEnds.of_public found read accepted shown decoded with
      ⟨owner, _⟩ | ⟨_, rfl, copied, keptCopied, forked⟩
    · exact absurd (reads.owner.trans owner) foreign
    · -- Both saves start from the chosen blocks. What is fetched differs in how often
      -- they went through the text of a row.
      have ownKind := kind record.owner ownRan
      have otherKind := kind stranger otherRan
      obtain ⟨original, givenOriginal, one⟩ := fetched_revised reads revision keptRevised
        accepted start (by rw [ownKind]; exact regular)
        (by rw [ownKind]; exact fun table => years table now (by simp))
      obtain ⟨copy, givenCopy, other⟩ := fetched_forked forked keptCopied accepted start
        (by rw [otherKind]; exact regular)
        (by rw [otherKind]; exact fun table => years table made (by simp))
      refine ⟨changed, grown, original, copy, ownRan, ?_, otherRan, ?_,
        other.name.trans one.name.symm, other.category.trans one.category.symm,
        other.subject.trans one.subject.symm, other.description.trans one.description.symm,
        ?_⟩
      · rw [run_fetch, givenOriginal]
      · rw [run_fetch, givenCopy]
      · rw [other.blocks, one.blocks, ownKind, otherKind]
        split <;> rfl
  · exact absurd reads.owner.symm notOwner

/-- A new name for a template in a table. -/
theorem saves_agree_in_table :
    let noon : Time.Instant := ⟨⟨2024, 5, 1, by decide⟩, 720, 0, 0, by decide⟩
    let block : Block := ⟨"b1", .spacer, .ofList [("flex", .number (.integer 2 (by decide)))]⟩
    let welcome : Document := ⟨⟨"d1"⟩, ⟨"ada"⟩, "Welcome", "News", "Hi", none, .everyone, none,
      [block], noon⟩
    let store : Store := .table ⟨[.ofDocument welcome], by simp⟩
    let patch : DocumentPatch := ⟨some "May", none, none, none, none, none⟩
    ∃ changed grown original copy,
      (World.ofStore store .empty).run noon (save ⟨"d1"⟩ ⟨"ada"⟩ patch ⟨"d2"⟩ noon).run =
        (.ofStore changed .empty, .ok ⟨⟨"d1"⟩, false⟩) ∧
      (World.ofStore changed .empty).run noon (fetch ⟨"d1"⟩ ⟨"ada"⟩).run =
        (.ofStore changed .empty, .ok original) ∧
      (World.ofStore store .empty).run noon (save ⟨"d1"⟩ ⟨"bob"⟩ patch ⟨"d2"⟩ noon).run =
        (.ofStore grown .empty, .ok ⟨⟨"d2"⟩, true⟩) ∧
      (World.ofStore grown .empty).run noon (fetch ⟨"d2"⟩ ⟨"bob"⟩).run =
        (.ofStore grown .empty, .ok copy) ∧
      copy.name = original.name ∧ copy.category = original.category ∧
      copy.subject = original.subject ∧ copy.description = original.description ∧
      copy.blocks = original.blocks.map Block.reread := by
  intro noon block welcome store patch
  have read := Row.record_ofDocument welcome (by decide)
  have storable : Blocks.Storable [block] := (Blocks.validate_iff _).1 (by decide)
  have decoded := Blocks.decode_blocksText (Blocks.regular_of_storable storable)
  have found : store.entryAt? ⟨"d1"⟩ = some (.text (.ofDocument welcome)) := rfl
  have absent : store.entryAt? ⟨"d2"⟩ = none := rfl
  have accepted : patch.toUpdate = .ok (patch.update none) := rfl
  have foreign : welcome.owner ≠ ⟨"bob"⟩ := by decide
  have years (_ : store.backend = .table) : ∀ time ∈ [noon, noon], time.FourDigits := by
    intro time member
    have same : time = noon := by simpa using member
    rw [same]
    decide
  obtain ⟨changed, grown, original, copy, ownSave, ownFetch, otherSave, otherFetch, name,
    category, subject, description, blocks⟩ :=
      saves_agree .empty noon found read rfl decoded accepted foreign absent years
  refine ⟨changed, grown, original, copy, ?_, ?_, ?_, ?_, name, category, subject,
    description, ?_⟩
  · exact ownSave
  · exact ownFetch
  · exact otherSave
  · exact otherFetch
  · exact blocks

/-- The text of one double is read as its neighbour, and the text of the neighbour as the
double. The owner's blocks are read once, those of the fork twice. -/
theorem saves_part :
    let noon : Time.Instant := ⟨⟨2024, 5, 1, by decide⟩, 720, 0, 0, by decide⟩
    let flex : Scalar := .number (.double ⟨false, 6325624878793113, -80, by decide⟩)
    let block : Block := ⟨"b1", .spacer, .ofList [("flex", flex)]⟩
    let welcome : Document := ⟨⟨"d1"⟩, ⟨"ada"⟩, "Welcome", "News", "Hi", none, .everyone, none,
      [block], noon⟩
    let store : Store := .table ⟨[.ofDocument welcome], by simp⟩
    let patch : DocumentPatch := ⟨some "May", none, none, none, none, none⟩
    let saved := fun requester =>
      ((World.ofStore store .empty).run noon (save ⟨"d1"⟩ requester patch ⟨"d2"⟩ noon).run).1
    (∃ record blocks update, store.get? ⟨"d1"⟩ = .ok (some record) ∧
      record.visibility = .everyone ∧ Blocks.decode record.blocks = .ok blocks ∧
      patch.toUpdate = .ok update) ∧
    ∃ original copy,
      ((saved ⟨"ada"⟩).run noon (fetch ⟨"d1"⟩ ⟨"ada"⟩).run).2 = .ok original ∧
      ((saved ⟨"bob"⟩).run noon (fetch ⟨"d2"⟩ ⟨"bob"⟩).run).2 = .ok copy ∧
      copy.blocks ≠ original.blocks := by
  intro noon flex block welcome store patch saved
  have stored : store.get? ⟨"d1"⟩ = (Row.ofDocument welcome).record.map some := rfl
  rw [Row.record_ofDocument welcome (by decide)] at stored
  have storable : Blocks.Storable [block] := (Blocks.validate_iff _).1 (by decide)
  have decoded := Blocks.decode_blocksText (Blocks.regular_of_storable storable)
  obtain ⟨original, given, kept⟩ := exists_of_map
    (show ((saved ⟨"ada"⟩).run noon (fetch ⟨"d1"⟩ ⟨"ada"⟩).run).2.map
        (fun document => document.blocks.map fun block => block.style.entries) =
          .ok [[("flex", .number (.double ⟨false, 6325624878793114, -80, by decide⟩))]] by
      decide +kernel)
  obtain ⟨copy, other, written⟩ := exists_of_map
    (show ((saved ⟨"bob"⟩).run noon (fetch ⟨"d2"⟩ ⟨"bob"⟩).run).2.map
        (fun document => document.blocks.map fun block => block.style.entries) =
          .ok [[("flex", flex)]] by
      decide +kernel)
  refine ⟨⟨_, _, _, stored, rfl, decoded, rfl⟩, original, copy, given, other, ?_⟩
  intro same
  rw [same, kept] at written
  exact absurd written (by decide)

end Service

end BlockMail
