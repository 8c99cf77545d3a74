import BlockMail.Proofs.Editor.Session
import BlockMail.Proofs.Service.Reading

/-!
# Editor and store in step

A session that is saved ends up with what the store holds. The rule for forks is
written twice, for the store and for the session; the two meet in what the entry
that a save leaves shows.
-/

set_option autoImplicit false

namespace BlockMail

open Service

namespace EditSession

/-- Where a save of a session leads: the store has an entry of the time of the save
that shows what the session becomes when it learns of the outcome. -/
structure Lands (session : EditSession) (requester : UserId) (made now : Time.Instant)
    (after : Store) (outcome : SaveOutcome) : Prop where
  id : (session.markSaved outcome requester).document.id = outcome.id
  owner : (session.markSaved outcome requester).document.owner = requester
  stored : ∃ entry, after.entryAt? outcome.id = some entry ∧
    entry.Shows (session.markSaved outcome requester).document ∧
    (entry.Dated now ∨ entry.Dated made)

theorem shows_of_revised {session : EditSession} {now : Time.Instant}
    {old new : Store.Entry} (revised : Revised session.toPatch now old new)
    (id : old.id = session.document.id) (owner : old.owner = session.document.owner)
    (forkedFrom : old.forkedFrom = session.document.forkedFrom)
    (storable : Blocks.Storable session.document.blocks)
    (described : session.document.description ≠ some "") :
    new.Shows session.document := by
  obtain ⟨blocks, decoded, holds⟩ := revised.newBlocks _ session.payload?_toPatch
  rw [decodeValid_toJson storable] at decoded
  cases decoded
  refine ⟨revised.id.trans id, revised.owner.trans owner, revised.name, revised.category,
    revised.subject, ?_, revised.visibility, revised.forkedFrom.trans forkedFrom, holds⟩
  rw [revised.description, description_toPatch described]
  rfl

theorem shows_of_forked {session : EditSession} {made : Time.Instant}
    {record : DocumentRecord} {fresh : DocumentId} {requester : UserId}
    {new : Store.Entry}
    (forked : Forked session.toPatch record session.document.id fresh requester made new)
    (storable : Blocks.Storable session.document.blocks)
    (described : session.document.description ≠ some "") :
    new.Shows (EditSession.forked session.document fresh requester) := by
  obtain ⟨blocks, decoded, holds⟩ := forked.newBlocks _ session.payload?_toPatch
  rw [decodeValid_toJson storable] at decoded
  cases decoded
  refine ⟨forked.id, forked.owner, forked.name, forked.category, forked.subject, ?_,
    forked.visibility, forked.forkedFrom, holds⟩
  rw [forked.description, description_toPatch described]
  rfl

variable {store after : Store} {requester : UserId} {origin : Document}
  {session : EditSession} {fresh : DocumentId} {made now : Time.Instant}

/-- A save of an edit of what the user was given lands, in place for the owner and as
a fork for anybody else. -/
theorem lands_of_ends {result : Except ServiceError SaveOutcome}
    (given : fetched store session.document.id requester = .ok origin)
    (edit : origin.EditOf session.document)
    (ends : SaveEnds store session.document.id requester session.toPatch fresh made now
      after result) :
    ∃ outcome, result = .ok outcome ∧ session.Lands requester made now after outcome ∧
      (origin.owner = requester → outcome = ⟨session.document.id, false⟩) := by
  obtain ⟨entry, record, found, read, seen, decoded⟩ := fetched_eq_ok.1 given
  have reads := Store.Entry.readsAs read
  obtain ⟨blocks, _, built⟩ := exists_of_bind decoded
  cases built
  have identified : entry.id = session.document.id := reads.id.symm.trans edit.id.symm
  have owned : entry.owner = session.document.owner := reads.owner.symm.trans edit.owner.symm
  have derived : entry.forkedFrom = session.document.forkedFrom :=
    reads.forkedFrom.symm.trans edit.forkedFrom.symm
  cases ends with
  | missing absent =>
      rw [found] at absent
      cases absent
  | invalid _ refused =>
      rw [toUpdate_toPatch edit.storable] at refused
      cases refused
  | hidden there again _ foreign hidden =>
      rw [found] at there
      cases there
      rw [read] at again
      cases again
      simp [DocumentRecord.isVisibleTo, hidden, reads.owner, foreign] at seen
  | unreadable _ _ _ _ _ none =>
      rw [payload?_toPatch] at none
      cases none
  | inPlace there _ owns kept revised =>
      rw [found] at there
      cases there
      have shows := shows_of_revised revised identified owned derived edit.storable
        edit.described
      exact ⟨_, rfl, ⟨rfl, owned.symm.trans owns, _, kept, shows, .inl revised.dated⟩,
        fun _ => rfl⟩
  | forked there _ _ foreign _ kept forked =>
      rw [found] at there
      cases there
      have shows := shows_of_forked forked edit.storable edit.described
      refine ⟨_, rfl, ⟨rfl, rfl, _, kept, shows, .inr forked.dated⟩, ?_⟩
      intro owner
      exact absurd (reads.owner.symm.trans owner) foreign

/-- After a save lands, the user is given what the session has become. -/
theorem Lands.fetched {outcome : SaveOutcome}
    (lands : session.Lands requester made now after outcome)
    (reparses : after.backend = .table → Blocks.Reparses session.document.blocks)
    (years : after.backend = .table → ∀ time ∈ [made, now], time.FourDigits) :
    ∃ time, Service.fetched after outcome.id requester =
      .ok { (session.markSaved outcome requester).document with updatedAt := time } := by
  obtain ⟨entry, found, shows, dated⟩ := lands.stored
  have whole : entry.damage? = none := by
    rcases dated with dated | dated
    · exact Store.Entry.damage?_of_dated found shows.visibility dated
        fun table => years table now (by simp)
    · exact Store.Entry.damage?_of_dated found shows.visibility dated
        fun table => years table made (by simp)
  obtain ⟨record, read⟩ := Store.Entry.damage?_eq_none.1 whole
  have owned : record.owner = requester :=
    (Store.Entry.readsAs read).owner.trans (shows.owner.trans lands.owner)
  refine ⟨record.updatedAt, fetched_eq_ok.2 ⟨entry, record, found, read, ?_, ?_⟩⟩
  · simp [DocumentRecord.isVisibleTo, owned]
  · apply shows.ofRecord found read
    rw [blocks_markSaved]
    exact reparses

/-- What a user is given of a sound store can be edited. -/
theorem editOf_fetched {id : DocumentId} (sound : store.Sound)
    (given : Service.fetched store id requester = .ok origin) :
    origin.id = id ∧ origin.EditOf origin := by
  obtain ⟨entry, record, found, read, _, decoded⟩ := fetched_eq_ok.1 given
  obtain ⟨blocks, decodes, built⟩ := exists_of_bind decoded
  cases built
  have entrySound := sound id entry found
  have recordSound := sound.record (Store.get?_eq_some.2 ⟨entry, found, read⟩)
  refine ⟨(Store.Entry.readsAs read).id.trans entrySound.named, ?_⟩
  exact ⟨rfl, rfl, rfl, recordSound.storable blocks decodes, recordSound.described⟩

/-- Whether a store and a session that was saved say the same: the store gives the
user the document of the session and its page, and another save is in place. -/
structure InStep (service : Service) (store : Store) (requester : UserId)
    (id : DocumentId) (session : EditSession) : Prop where
  fetched : ∃ time, ∀ transport now,
    (World.ofStore store transport).run now (fetch id requester).run =
      (.ofStore store transport, .ok { session.document with updatedAt := time })
  previewed : ∀ context transport now,
    (World.ofStore store transport).run now
        (service.preview id requester context).run =
      (.ofStore store transport, .ok (session.preview (service.merged context)))
  savedAgain : ∀ steps fresh made transport now,
    session.FreshSteps steps → store.entryAt? fresh = none →
    ∃ after,
      (World.ofStore store transport).run now
          (save id requester (session.after steps).toPatch fresh made).run =
        (.ofStore after transport, .ok ⟨id, false⟩)

theorem Lands.inStep {outcome : SaveOutcome} (service : Service)
    (lands : session.Lands requester made now after outcome)
    (edit : origin.EditOf session.document)
    (reparses : after.backend = .table → Blocks.Reparses session.document.blocks)
    (years : after.backend = .table → ∀ time ∈ [made, now], time.FourDigits) :
    InStep service after requester outcome.id (session.markSaved outcome requester) := by
  obtain ⟨time, given⟩ := lands.fetched reparses years
  refine ⟨⟨time, ?_⟩, ?_, ?_⟩
  · intro transport now
    rw [run_fetch, given]
  · intro context transport now
    rw [run_preview, given]
    rfl
  · intro steps fresh made transport now freshSteps absent
    have saved : Document.EditOf
        { (session.markSaved outcome requester).document with updatedAt := time }
        (session.markSaved outcome requester).document := by
      refine ⟨rfl, rfl, rfl, ?_, ?_⟩
      · rw [blocks_markSaved]
        exact edit.storable
      · rw [description_markSaved]
        exact edit.described
    have further := editOf_after steps saved freshSteps
    have id : ((session.markSaved outcome requester).after steps).document.id =
        outcome.id := further.id.trans lands.id
    obtain ⟨later, result, ran, ends⟩ := run_save_ends (damage?_of_fetched given) transport
      now requester ((session.markSaved outcome requester).after steps).toPatch made absent
    rw [← id] at ends given
    obtain ⟨_, rfl, _, inPlace⟩ := lands_of_ends given further ends
    rw [inPlace lands.owner, id] at ran
    exact ⟨later, ran⟩

/-- Editor and store stay in step. A template that a user was given is edited by any
steps and saved: the save succeeds, and the session that learns of its outcome and the
store then say the same. The identifiers generated on the way are new. Of a table it is
assumed that the text of blocks parses to what was written, and that the clock is in
years of four digits. -/
theorem saved_in_step (service : Service) (backend : Store.Backend)
    (moves : List Move) (requester : UserId) (id : DocumentId) (origin : Document)
    (steps : List Step) (fresh : DocumentId) (made now opened : Time.Instant)
    (transport mails : Mail.MemoryTransport)
    (reparses : backend = .table →
      ∀ blocks ∈ (Shared.initial backend).written service moves, Blocks.Reparses blocks)
    (given : ((World.ofStore (Shared.reached service backend moves).store mails).run opened
      (fetch id requester).run).2 = .ok origin)
    (freshBlocks : (start origin).FreshSteps steps)
    (freshId : (Shared.reached service backend moves).store.entryAt? fresh = none)
    (reparsesEdited : backend = .table →
      Blocks.Reparses ((start origin).after steps).document.blocks)
    (years : backend = .table → ∀ time ∈ [made, now], time.FourDigits) :
    let session := (start origin).after steps
    ∃ after outcome,
      (World.ofStore (Shared.reached service backend moves).store transport).run now
          (save id requester session.toPatch fresh made).run =
        (.ofStore after transport, .ok outcome) ∧
      InStep service after requester outcome.id
        (session.markSaved outcome requester) := by
  intro session
  have sound := Shared.sound_reached reparses
  rw [run_fetch] at given
  obtain ⟨opens, self⟩ := editOf_fetched sound given
  have edit : origin.EditOf session.document := editOf_after steps self freshBlocks
  have same : session.document.id = id := edit.id.trans opens
  obtain ⟨after, result, ran, ends⟩ := run_save_ends (damage?_of_fetched given) transport now
    requester session.toPatch made freshId
  rw [← same] at ends given
  obtain ⟨outcome, rfl, lands, _⟩ := lands_of_ends given edit ends
  have kind : after.backend = backend := by
    have kept := World.backend_run
      (.ofStore (Shared.reached service backend moves).store transport) now
      (save id requester session.toPatch fresh made).run
    rw [ran] at kept
    exact kept.trans (Shared.backend_reached service backend moves)
  refine ⟨after, outcome, ran, lands.inStep service edit ?_ ?_⟩
  · rw [kind]
    exact reparsesEdited
  · rw [kind]
    exact years

/-- Another user edits a public template in a table, with a step that fails among the
steps, and saves it. -/
theorem saved_in_step_by_stranger :
    let noon : Time.Instant := ⟨⟨2024, 5, 1, by decide⟩, 720, 0, 0, by decide⟩
    let service : Service := ⟨defaultSender, .empty⟩
    let input : NewDocument :=
      ⟨some "Welcome", none, none, none, some (.array []), some .everyone⟩
    let moves : List Move :=
      [.start ⟨"ada"⟩ (.create input ⟨"d1"⟩ noon), .advance 0 noon (.error (.failed ""))]
    let origin : Document :=
      ⟨⟨"d1"⟩, ⟨"ada"⟩, "Welcome", Starter.defaultCategory, Starter.defaultSubject, none,
        .everyone, none, [], noon⟩
    let steps : List Step :=
      [.apply ⟨.removeBlock "gone", ""⟩,
        .applyAll [⟨.setName "Hello", ""⟩, ⟨.addBlock .spacer none, "b"⟩],
        .select (some "b")]
    let session := (start origin).after steps
    ∃ after outcome,
      (World.ofStore (Shared.reached service .table moves).store .empty).run noon
          (save ⟨"d1"⟩ ⟨"bob"⟩ session.toPatch ⟨"d2"⟩ noon).run =
        (.ofStore after .empty, .ok outcome) ∧
      InStep service after ⟨"bob"⟩ outcome.id (session.markSaved outcome ⟨"bob"⟩) := by
  intro noon service input moves origin steps session
  have stored : (Shared.reached service .table moves).store =
      .table ⟨[.ofDocument origin], by simp⟩ := rfl
  have read : (Store.Row.ofDocument origin).record =
      .ok { origin with
        blocks := .string (Store.Row.blocksText []), updatedAt := noon.truncateMicros } :=
    Store.Row.record_eq rfl rfl (by decide)
  have whole : noon.truncateMicros = noon := by decide
  rw [whole] at read
  have reparses : Blocks.Reparses [] :=
    Blocks.reparses_of_exact ((Blocks.validate_iff _).1 rfl) (by decide)
  have edited : session.document.blocks = [Starter.paletteBlock .spacer "b"] := rfl
  refine saved_in_step service .table moves ⟨"bob"⟩ ⟨"d1"⟩ origin steps ⟨"d2"⟩ noon noon
    noon .empty .empty ?_ ?_ ?_ ?_ ?_ ?_
  · intro _ blocks written
    have only : (Shared.initial .table).written service moves = [[]] := rfl
    rw [only] at written
    cases List.mem_singleton.1 written
    exact reparses
  · rw [stored, run_fetch]
    dsimp only
    refine fetched_eq_ok.2 ⟨.text (.ofDocument origin), _, rfl, read, rfl, ?_⟩
    unfold Document.ofRecord
    rw [Blocks.decode_text reparses]
    rfl
  · exact ⟨trivial, ⟨trivial, ⟨by decide, rfl⟩, trivial⟩, trivial, trivial⟩
  · rw [stored]
    rfl
  · intro _
    rw [edited]
    exact Blocks.reparses_of_exact ((Blocks.validate_iff _).1 (by decide)) (by decide)
  · intro _ time member
    have same : time = noon := by simpa using member
    rw [same]
    decide

end EditSession

end BlockMail
