import BlockMail.Proofs.Keyed.Order
import BlockMail.Proofs.Store.Catalogue
import BlockMail.Proofs.Store.Statement

/-!
# One update in three places

An update of fields is applied to a document, to a record in memory and to a row of a
table. What either store reads back after an update is the document that the update was
applied to, at the time of the clock.
-/

set_option autoImplicit false

namespace BlockMail

/-! ## Updates that are made again -/

theorem FieldUpdate.applyTo_applyTo (update : FieldUpdate) (document : Document) :
    update.applyTo (update.applyTo document) = update.applyTo document := by
  simp only [applyTo, ← Option.getD_or, Option.or_self]

theorem DocumentRecord.updated_updated (record : DocumentRecord) (update : FieldUpdate)
    (before now : Time.Instant) :
    (record.updated update before).updated update now = record.updated update now := by
  simp only [updated, ← Option.getD_or, Option.or_self]

theorem Store.Row.updated_updated (row : Row) (update : FieldUpdate)
    (before now : Time.Instant) :
    (row.updated update before).updated update now = row.updated update now := by
  simp only [updated, ← Option.getD_or, Option.or_self]

namespace Store

theorem MemoryStore.updateIf_of_admitted {store : MemoryStore} {id : DocumentId}
    {admits : DocumentRecord → Bool} {record : DocumentRecord}
    (found : store.get? id = some record) (admitted : admits record = true)
    (update : FieldUpdate) (now : Time.Instant) :
    store.updateIf id admits update now =
      (⟨store.records.insert id.text (record.updated update now)⟩, 1) := by
  simp [updateIf, found, Option.filter_some, admitted]

theorem MemoryStore.updateIf_of_refused {store : MemoryStore} {id : DocumentId}
    {admits : DocumentRecord → Bool} (refused : (store.get? id).filter admits = none)
    (update : FieldUpdate) (now : Time.Instant) :
    store.updateIf id admits update now = (store, 0) := by
  simp [updateIf, refused]

theorem MemoryStore.updateIf_twice (store : MemoryStore) (id : DocumentId)
    {admits : DocumentRecord → Bool} (update : FieldUpdate) (before now : Time.Instant)
    (steady : ∀ record, admits (record.updated update before) = admits record) :
    (store.updateIf id admits update before).1.updateIf id admits update now =
      store.updateIf id admits update now := by
  cases found : (store.get? id).filter admits with
  | none => rw [updateIf_of_refused found]
  | some record =>
      obtain ⟨here, admitted⟩ := Option.filter_eq_some_iff.1 found
      have there : (store.updateIf id admits update before).1.get? id =
          some (record.updated update before) := by
        simp [get?_updateIf, here, admitted]
      have still := (steady record).trans admitted
      rw [updateIf_of_admitted there still, updateIf_of_admitted here admitted,
        updateIf_of_admitted here admitted, record.updated_updated]
      simp only [ByKey.insert, Keyed.insertSorted_twice]

theorem Table.modifyWhere_twice (table : Table) {selects : Row → Bool}
    (first second : Row → Row) (firstKeeps : ∀ row, (first row).id = row.id)
    (secondKeeps : ∀ row, (second row).id = row.id)
    (steady : ∀ row, selects (first row) = selects row)
    (covers : ∀ row, second (first row) = second row) :
    (table.modifyWhere selects first firstKeeps).1.modifyWhere selects second secondKeeps =
      table.modifyWhere selects second secondKeeps := by
  have each : (fun row => if selects row then second row else row) ∘
      (fun row => if selects row then first row else row) =
        fun row => if selects row then second row else row := by
    funext row
    by_cases selected : selects row = true <;> simp [selected, steady, covers]
  have counted : selects ∘ (fun row => if selects row then first row else row) = selects := by
    funext row
    by_cases selected : selects row = true <;> simp [selected, steady]
  simp only [modifyWhere, List.map_map, each, List.countP_map, counted]

/-! ## Updates of any document and of an owner's -/

/-- Updates a document, whoever owns it or only if a given user does. -/
def updateBy (store : Store) (id : DocumentId) (owner : Option UserId)
    (update : FieldUpdate) (now : Time.Instant) : Store × Nat :=
  match owner with
  | none => store.update id update now
  | some owner => store.updateOwned id owner update now

section UpdateBy

variable (store : Store) (key : DocumentId) (owner : Option UserId) (update : FieldUpdate)
  (now : Time.Instant)

theorem entryAt?_updateBy (id : DocumentId) :
    (store.updateBy key owner update now).1.entryAt? id =
      if id = key then
        (store.entryAt? id).map fun entry =>
          if owner.all fun user => entry.owner = user then entry.updated update now else entry
      else store.entryAt? id := by
  cases owner with
  | none =>
      simp [updateBy, entryAt?_update]
  | some owner =>
      have performed : (store.updateBy key owner update now).1.entryAt? id = _ :=
        entryAt?_perform store now (.updateOwned key owner update) id
      simpa [Call.effect] using performed

theorem count_updateBy :
    (store.updateBy key owner update now).2 =
      if (store.entryAt? key).any (fun entry => owner.all fun user => entry.owner = user) then 1
      else 0 := by
  cases owner with
  | none =>
      simp [updateBy, count_update]
  | some owner => exact Except.ok.inj (reply_updateOwned store now key owner update)

/-- An update that is made twice leaves what the second one alone leaves. -/
theorem updateBy_twice (before : Time.Instant) :
    (store.updateBy key owner update before).1.updateBy key owner update now =
      store.updateBy key owner update now := by
  -- The first update changes no identifier and no owner, so the second finds the same rows.
  cases store with
  | memory records =>
      cases owner with
      | none =>
          exact congrArg (mapFirst Store.memory)
            (records.updateIf_twice key update before now fun _ => rfl)
      | some owner =>
          exact congrArg (mapFirst Store.memory)
            (records.updateIf_twice key update before now fun _ => rfl)
  | table rows =>
      have again {selects : Row → Bool}
          (steady : ∀ row : Row, selects (row.updated update before) = selects row) :=
        rows.modifyWhere_twice (fun row => row.updated update before)
          (fun row => row.updated update now) (fun _ => rfl) (fun _ => rfl) steady
          fun row => row.updated_updated update before now
      cases owner with
      | none => exact congrArg (mapFirst Store.table) (again fun _ => rfl)
      | some owner => exact congrArg (mapFirst Store.table) (again fun _ => rfl)

theorem entryAt?_updateBy_of_ne {id : DocumentId} (other : id ≠ key) :
    (store.updateBy key owner update now).1.entryAt? id = store.entryAt? id := by
  rw [entryAt?_updateBy, if_neg other]

end UpdateBy

/-- Which document an entry is of, and where it comes from. -/
def Entry.identity (entry : Entry) : DocumentId × UserId × Option DocumentId :=
  (entry.id, entry.owner, entry.forkedFrom)

theorem identity_updateBy (store : Store) (key : DocumentId) (owner : Option UserId)
    (update : FieldUpdate) (now : Time.Instant) (id : DocumentId) :
    ((store.updateBy key owner update now).1.entryAt? id).map Entry.identity =
      (store.entryAt? id).map Entry.identity := by
  have steady (entry : Entry) : (entry.updated update now).identity = entry.identity := by
    simp [Entry.identity]
  rw [entryAt?_updateBy]
  split
  · cases store.entryAt? id with
    | none => rfl
    | some entry =>
        simp only [Option.map_some]
        split
        · rw [steady]
        · rfl
  · rfl

/-! ## Reading back -/

/-- What a store of a kind keeps of a time. -/
def Backend.clock : Backend → Time.Instant → Time.Instant
  | .memory, now => now
  | .table, now => now.truncateMicros

theorem Entry.read_ofDocument (backend : Backend) (document : Document)
    (readable : backend = .table →
      Blocks.Reparses document.blocks ∧ document.updatedAt.FourDigits) :
    ∃ record, (ofDocument backend document).read = .ok record ∧
      Document.ofRecord record =
        .ok { document with updatedAt := backend.clock document.updatedAt } := by
  cases backend with
  | memory => exact ⟨_, rfl, document.ofRecord_toRecord⟩
  | table =>
      obtain ⟨reparses, years⟩ := readable rfl
      refine ⟨_, Row.record_ofDocument document years, ?_⟩
      unfold Document.ofRecord
      rw [Blocks.decode_text reparses]
      rfl

/-- Storing a document and updating it, as its owner or without asking for the owner. -/
theorem exists_updated {store : Store} {document : Document} {owner : Option UserId}
    (new : store.entryAt? document.id = none)
    (admitted : owner = none ∨ owner = some document.owner) (update : FieldUpdate)
    (now : Time.Instant) :
    ∃ stored changed, store.insert document = .ok stored ∧
      stored.updateBy document.id owner update now = (changed, 1) ∧
      changed.entryAt? document.id =
        some (.ofDocument store.backend (document.updated update now)) ∧
      ∀ id, id ≠ document.id → changed.entryAt? id = store.entryAt? id := by
  obtain ⟨stored, inserted, _, entries⟩ := insert_of_absent new
  have here := entries document.id
  rw [if_pos rfl] at here
  have owned : (owner.all fun user => document.owner = user) = true := by
    rcases admitted with rfl | rfl <;> simp
  refine ⟨stored, (stored.updateBy document.id owner update now).1, inserted, ?_, ?_, ?_⟩
  · refine Prod.ext rfl ?_
    simp [count_updateBy, here, owned]
  · simp [entryAt?_updateBy, here, owned, Entry.updated_ofDocument]
  · intro id other
    rw [entryAt?_updateBy_of_ne _ _ _ _ _ other, entries id, if_neg other]

theorem run?_updateBy (rows : Table) (id : DocumentId) (owner : Option UserId)
    (update : FieldUpdate) (now : Time.Instant) :
    ∃ changed count, (Store.table rows).updateBy id owner update now = (.table changed, count) ∧
      (Statement.ofUpdate id owner update now).run? rows.rows = some (changed.rows, count) := by
  cases owner with
  | none =>
      refine ⟨_, _, rfl, Statement.run?_ofUpdate id none update now rows.rows ?_⟩
      intro row
      simp
  | some owner =>
      exact ⟨_, _, rfl, Statement.run?_ofUpdate id (some owner) update now rows.rows fun _ => rfl⟩

/-- What an update does to a store of either kind, to documents and to rows. -/
structure UpdatesAgree (store : Store) (update : FieldUpdate) (now : Time.Instant) : Prop where
  /-- A document that is stored and updated, as its owner or without asking for the owner,
  is read back as the update applied to it, at the time of the clock. -/
  readBack : ∀ document owner, store.entryAt? document.id = none →
    owner = none ∨ owner = some document.owner →
    (store.backend = .table →
      Blocks.Reparses (update.applyTo document).blocks ∧ now.FourDigits) →
    ∃ stored changed record, store.insert document = .ok stored ∧
      stored.updateBy document.id owner update now = (changed, 1) ∧
      changed.get? document.id = .ok (some record) ∧
      Document.ofRecord record =
        .ok { update.applyTo document with updatedAt := store.backend.clock now } ∧
      ∀ id, id ≠ document.id → changed.entryAt? id = store.entryAt? id
  others : ∀ key owner id, id ≠ key →
    (store.updateBy key owner update now).1.entryAt? id = store.entryAt? id
  identity : ∀ key owner id,
    ((store.updateBy key owner update now).1.entryAt? id).map Entry.identity =
      (store.entryAt? id).map Entry.identity
  /-- The same update again changes the time only. -/
  again : ∀ key owner before,
    (store.updateBy key owner update before).1.updateBy key owner update now =
      store.updateBy key owner update now
  applied : ∀ document, update.applyTo (update.applyTo document) = update.applyTo document ∧
    (update.applyTo document).id = document.id ∧
    (update.applyTo document).owner = document.owner ∧
    (update.applyTo document).forkedFrom = document.forkedFrom
  /-- The statement of the update does to the rows of a table what the update does. -/
  statement : ∀ rows key owner, store = .table rows →
    ∃ changed count, store.updateBy key owner update now = (.table changed, count) ∧
      (Statement.ofUpdate key owner update now).run? rows.rows = some (changed.rows, count)

/-- An update comes to the same applied to a document, made in a store of either kind, and
sent to a table as a statement. -/
theorem updates_agree (store : Store) (update : FieldUpdate) (now : Time.Instant) :
    store.UpdatesAgree update now := by
  constructor
  case readBack =>
    intro document owner new admitted readable
    obtain ⟨stored, changed, inserted, counted, here, others⟩ :=
      exists_updated new admitted update now
    obtain ⟨record, read, decoded⟩ :=
      Entry.read_ofDocument store.backend (document.updated update now) readable
    exact ⟨stored, changed, record, inserted, counted, get?_eq_some.2 ⟨_, here, read⟩,
      decoded, others⟩
  case others =>
    intro key owner id other
    exact store.entryAt?_updateBy_of_ne key owner update now other
  case identity => exact fun key owner id => store.identity_updateBy key owner update now id
  case again => exact fun key owner before => store.updateBy_twice key owner update now before
  case applied => exact fun document => ⟨update.applyTo_applyTo document, rfl, rfl, rfl⟩
  case statement =>
    rintro rows key owner rfl
    exact run?_updateBy rows key owner update now

/-- A fork in a table, whose owner clears the description and replaces the blocks. -/
theorem updates_agree_of_cleared :
    let noon : Time.Instant := ⟨⟨2024, 5, 1, by decide⟩, 720, 0, 1001, by decide⟩
    let later : Time.Instant := ⟨⟨2024, 5, 1, by decide⟩, 721, 30, 2999, by decide⟩
    let document : Document := ⟨⟨"t1"⟩, ⟨"ada"⟩, "Welcome", "News", "Hi", some "First mail",
      .everyone, some ⟨"t0"⟩, [], noon⟩
    let update : FieldUpdate :=
      ⟨none, none, some "Hello", some none, some [⟨"only", .spacer, .empty⟩], none⟩
    ∃ stored changed record, (empty .table).insert document = .ok stored ∧
      stored.updateOwned ⟨"t1"⟩ ⟨"ada"⟩ update later = (changed, 1) ∧
      changed.get? ⟨"t1"⟩ = .ok (some record) ∧
      Document.ofRecord record = .ok ⟨⟨"t1"⟩, ⟨"ada"⟩, "Welcome", "News", "Hello", none,
        .everyone, some ⟨"t0"⟩, [⟨"only", .spacer, .empty⟩], later.truncateMicros⟩ := by
  intro noon later document update
  have readable : (empty .table).backend = .table →
      Blocks.Reparses (update.applyTo document).blocks ∧ later.FourDigits := by
    intro _
    have storable : Blocks.Storable (update.applyTo document).blocks :=
      (Blocks.validate_iff _).1 (by decide)
    exact ⟨Blocks.reparses_of_exact storable (by decide), by decide⟩
  obtain ⟨stored, changed, record, inserted, counted, found, decoded, _⟩ :=
    (updates_agree (empty .table) update later).readBack document (some ⟨"ada"⟩) rfl (.inr rfl)
      readable
  exact ⟨stored, changed, record, inserted, counted, found, decoded⟩

end Store

end BlockMail
