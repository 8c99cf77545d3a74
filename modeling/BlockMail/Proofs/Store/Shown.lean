import BlockMail.Proofs.Store.Field
import BlockMail.Proofs.Store.Readable

/-!
# What a listing shows

The states that a store can get into, and the listing of each of them: one summary for
every record that the requester may read, newest first. Only a table can fail a listing,
and only by a time with a sign.
-/

set_option autoImplicit false

namespace BlockMail.Store

/-! ## States -/

/-- The states that accesses lead to, records from elsewhere and overwritten blocks
included. -/
inductive Obtainable : Store → Prop where
  | empty (backend : Backend) : Obtainable (.empty backend)
  | access {store : Store} (now : Time.Instant) (access : Access) :
      Obtainable store → Obtainable (store.access now access).1
  | takeRecord {store next : Store} {record : DocumentRecord} :
      Obtainable store → store.takeRecord record = .ok next → Obtainable next
  | overwriteBlocks {table : Table} (id : DocumentId) (text : String) :
      Obtainable (.table table) → Obtainable (.table (table.overwriteBlocks id text).1)

/-- An entry under its own identifier, with a visibility and a time as stores write them. -/
structure Entry.Proper (id : DocumentId) (entry : Entry) : Prop where
  named : entry.id = id
  shown : ∃ visibility : Visibility, entry.visibilityName = visibility.name
  dated : ∃ instant, entry.Dated instant

def Proper (store : Store) : Prop :=
  ∀ id entry, store.entryAt? id = some entry → entry.Proper id

namespace Entry

theorem proper_ofDocument (backend : Backend) (document : Document) :
    (ofDocument backend document).Proper document.id := by
  cases backend <;> exact ⟨rfl, ⟨document.visibility, rfl⟩, ⟨document.updatedAt, rfl⟩⟩

theorem Proper.updated {id : DocumentId} {entry : Entry} (proper : entry.Proper id)
    (update : FieldUpdate) (now : Time.Instant) : (entry.updated update now).Proper id := by
  obtain ⟨visibility, shown⟩ := proper.shown
  refine ⟨by rw [id_updated, proper.named], ⟨update.visibility.getD visibility, ?_⟩, ⟨now, ?_⟩⟩
  · have kept := Field.visibility.kept_updated entry update now
    simp only [Field.kept, Field.set?, shown] at kept
    rw [kept]
    cases update.visibility <;> rfl
  · cases entry <;> rfl

end Entry

theorem proper_empty (backend : Backend) : (empty backend).Proper := by
  intro id entry found
  rw [entryAt?_empty] at found
  cases found

namespace Proper

variable {store : Store}

theorem insert (proper : store.Proper) {document : Document} {next : Store}
    (inserted : store.insert document = .ok next) : next.Proper := by
  cases free : store.entryAt? document.id with
  | none =>
      obtain ⟨added, same, _, entries⟩ := insert_of_absent free
      rw [same] at inserted
      cases inserted
      intro id entry found
      rw [entries] at found
      split at found
      · rename_i here
        cases found
        exact here ▸ Entry.proper_ofDocument store.backend document
      · exact proper id entry found
  | some entry =>
      have present : store.entryAt? document.id ≠ none := by simp [free]
      rw [insert_of_present present] at inserted
      cases inserted

theorem update (proper : store.Proper) (key : DocumentId) (fields : FieldUpdate)
    (now : Time.Instant) : (store.update key fields now).1.Proper := by
  intro id entry found
  rw [entryAt?_update] at found
  split at found
  · obtain ⟨old, before, rfl⟩ := Option.map_eq_some_iff.1 found
    exact (proper id old before).updated fields now
  · exact proper id entry found

theorem perform (proper : store.Proper) (now : Time.Instant) (call : Call) :
    (store.perform now call).1.Proper := by
  intro id entry found
  rw [entryAt?_perform] at found
  cases before : store.entryAt? id with
  | none =>
      rw [before] at found
      obtain ⟨document, rfl, rfl, rfl⟩ := effect_none found
      exact Entry.proper_ofDocument store.backend document
  | some old =>
      rw [before] at found
      by_cases changed : call.effect store.backend now id (some old) = some old
      · rw [changed] at found
        cases found
        exact proper id entry before
      · rcases effect_some changed with ⟨fields, rfl, updated⟩ | ⟨_, removed⟩
        · rw [updated] at found
          cases found
          exact (proper id old before).updated fields now
        · rw [removed] at found
          cases found

theorem overwriteBlocks {table : Table} (proper : (Store.table table).Proper)
    (key : DocumentId) (text : String) :
    (Store.table (table.overwriteBlocks key text).1).Proper := by
  intro id entry found
  obtain ⟨row, there, rfl⟩ := Option.map_eq_some_iff.1 found
  have chosen (row : Row) : (row.id == key.text) = (row.id == key.text && true) := by simp
  unfold Table.overwriteBlocks at there
  rw [Table.row?_modifyWhere table key (fun _ => true) chosen] at there
  split at there
  · obtain ⟨old, before, rfl⟩ := Option.map_eq_some_iff.1 there
    have kept := proper id (.text old) (congrArg (·.map Entry.text) before)
    exact ⟨kept.named, kept.shown, kept.dated⟩
  · exact proper id (.text row) (congrArg (·.map Entry.text) there)

theorem takeRecord (proper : store.Proper) {record : DocumentRecord} {next : Store}
    (taken : store.takeRecord record = .ok next) : next.Proper := by
  cases store with
  | memory records =>
      cases taken
      intro id entry found
      obtain ⟨kept, there, rfl⟩ := Option.map_eq_some_iff.1 found
      rw [MemoryStore.get?_put] at there
      split at there
      · rename_i here
        cases there
        exact ⟨here.symm, ⟨record.visibility, rfl⟩, ⟨record.updatedAt, rfl⟩⟩
      · exact proper id (.structured kept) (congrArg (·.map Entry.structured) there)
  | table rows =>
      have added {document : Document} {after : Table}
          (inserted : rows.insert document = .ok after) : (Store.table after).Proper := by
        have whole : (Store.table rows).insert document = .ok (.table after) := by
          simp only [Store.insert, inserted, Except.map]
        exact proper.insert whole
      cases given : record.blocks with
      | string text =>
          simp only [Store.takeRecord, given] at taken
          split at taken
          · cases taken
          · split at taken
            · cases taken
            · rename_i inserted
              cases taken
              exact (added inserted).overwriteBlocks record.id text
      | null | bool | number | array | object =>
          simp only [Store.takeRecord, given] at taken
          split at taken
          · cases taken
          · split at taken
            · cases taken
            · rename_i inserted
              cases taken
              exact added inserted

end Proper

theorem Obtainable.proper {store : Store} (obtainable : store.Obtainable) : store.Proper := by
  induction obtainable with
  | empty backend => exact proper_empty backend
  | access now access _ ih =>
      cases access with
      | made call => exact ih.perform now call
      | forced id update => exact ih.update id update now
  | takeRecord _ taken ih => exact ih.takeRecord taken
  | overwriteBlocks id text _ ih => exact ih.overwriteBlocks id text

/-! ## Listings -/

/-- One summary of every record that a user may read, newest first. -/
structure Listing (store : Store) (requester : UserId) (summaries : List Summary) :
    Prop where
  once : (summaries.map Summary.id).Nodup
  mem_iff : ∀ summary, summary ∈ summaries ↔
    ∃ record, store.get? summary.id = .ok (some record) ∧
      record.isVisibleTo requester = true ∧ summary = record.summary
  newestFirst : summaries.Pairwise fun first second =>
    first.updatedAt.notBefore second.updatedAt = true

theorem Listing.mem_ids {store : Store} {requester : UserId} {summaries : List Summary}
    (listing : Listing store requester summaries) (proper : store.Proper) {id : DocumentId} :
    id ∈ summaries.map Summary.id ↔
      ∃ record, store.get? id = .ok (some record) ∧ record.isVisibleTo requester = true := by
  rw [List.mem_map]
  constructor
  · rintro ⟨summary, member, rfl⟩
    obtain ⟨record, found, visible, _⟩ := (listing.mem_iff summary).1 member
    exact ⟨record, found, visible⟩
  · rintro ⟨record, found, visible⟩
    obtain ⟨entry, kept, read⟩ := get?_eq_some.1 found
    have named : record.id = id := (Entry.readsAs read).id.trans (proper id entry kept).named
    refine ⟨record.summary, (listing.mem_iff record.summary).2 ⟨record, ?_, visible, rfl⟩, named⟩
    rw [show record.summary.id = id from named]
    exact found

namespace MemoryStore

variable {store : MemoryStore}

theorem mem_values (proper : (Store.memory store).Proper) {record : DocumentRecord} :
    record ∈ store.records.values ↔ store.get? record.id = some record := by
  constructor
  · intro member
    obtain ⟨⟨key, kept⟩, there, rfl⟩ := List.mem_map.1 member
    have found : store.get? ⟨key⟩ = some kept := ByKey.get?_eq_some_iff.2 there
    have named := (proper ⟨key⟩ (.structured kept) (congrArg (·.map Entry.structured) found)).named
    rw [show kept.id = ⟨key⟩ from named]
    exact found
  · intro found
    exact List.mem_map.2 ⟨(record.id.text, record), ByKey.get?_eq_some_iff.1 found, rfl⟩

theorem nodup_ids (proper : (Store.memory store).Proper) :
    (store.records.values.map DocumentRecord.id).Nodup := by
  have keys : store.records.values.map DocumentRecord.id =
      store.records.entries.map fun pair => ⟨pair.1⟩ := by
    unfold ByKey.values
    rw [List.map_map]
    apply List.map_congr_left
    intro pair member
    have found : store.get? ⟨pair.1⟩ = some pair.2 := ByKey.get?_eq_some_iff.2 member
    exact (proper ⟨pair.1⟩ (.structured pair.2)
      (congrArg (·.map Entry.structured) found)).named
  rw [keys]
  apply List.Nodup.of_map DocumentId.text
  rw [List.map_map]
  exact store.records.nodup_keys

theorem listing (proper : (Store.memory store).Proper) (requester : UserId) :
    Listing (.memory store) requester (store.list requester) := by
  constructor
  case once =>
    have sorted : (store.list requester).Perm
        ((store.records.values.filter (·.isVisibleTo requester)).map DocumentRecord.summary) :=
      List.mergeSort_perm _ _
    rw [(sorted.map Summary.id).nodup_iff, List.map_map]
    exact (List.filter_sublist.map DocumentRecord.id).nodup (nodup_ids proper)
  case mem_iff =>
    intro summary
    unfold MemoryStore.list
    simp only [List.mem_mergeSort, List.mem_map, List.mem_filter, mem_values proper, Store.get?,
      Except.ok.injEq]
    constructor
    · rintro ⟨record, ⟨found, visible⟩, rfl⟩
      exact ⟨record, found, visible, rfl⟩
    · rintro ⟨record, found, visible, rfl⟩
      exact ⟨record, ⟨found, visible⟩, rfl⟩
  case newestFirst => exact pairwise_newestFirst Summary.updatedAt _

end MemoryStore

namespace Row

/-- A row is selected for those who may read its record. -/
theorem isListedFor_of_record {row : Row} {record : DocumentRecord}
    (read : row.record = .ok record) (requester : UserId) :
    row.isListedFor requester = record.isVisibleTo requester := by
  have reads : (Entry.text row).ReadsAs record := Entry.readsAs read
  have owner : record.owner = ⟨row.owner⟩ := reads.owner
  rw [isListedFor_eq reads.visibility.symm, DocumentRecord.isVisibleTo, owner]

/-- A row with a time in a year of four digits, and its record. -/
structure Selected (row : Row) (instant : Time.Instant) (record : DocumentRecord) :
    Prop where
  dated : row.updatedAt = instant.microsText
  years : instant.FourDigits
  read : row.record = .ok record
  summed : row.summary = .ok record.summary
  time : record.updatedAt = instant.truncateMicros

theorem Filled.selected {row : Row} {visibility : Visibility} {instant : Time.Instant}
    (filled : row.Filled visibility instant) (years : instant.FourDigits) :
    ∃ record, row.Selected instant record := by
  obtain ⟨record, read, summed, time⟩ := filled.read years
  exact ⟨record, filled.dated, years, read, summed, time⟩

namespace Selected

variable {row other : Row} {instant later : Time.Instant} {record newer : DocumentRecord}

theorem id (selected : row.Selected instant record) : record.id = ⟨row.id⟩ := by
  have reads : (Entry.text row).ReadsAs record := Entry.readsAs selected.read
  exact reads.id

theorem toOption (selected : row.Selected instant record) :
    row.summary.toOption = some record.summary := by
  rw [selected.summed]
  rfl

/-- Texts in order are times in order. -/
theorem notBefore (selected : row.Selected instant record)
    (others : other.Selected later newer) (order : other.updatedAt ≤ row.updatedAt) :
    record.updatedAt.notBefore newer.updatedAt = true := by
  rw [Time.Instant.notBefore_iff, selected.time, others.time,
    ← Time.Instant.microsText_lt_iff selected.years others.years, ← selected.dated,
    ← others.dated]
  exact String.not_lt.2 order

end Selected

end Row

namespace Table

variable {table : Table} {requester : UserId}

theorem get?_of_mem {row : Row} (there : row ∈ table.rows) :
    table.get? ⟨row.id⟩ = row.record.map some := by
  have found : table.row? ⟨row.id⟩ = some row :=
    Keyed.find?_key_of_mem Row.id table.distinct there
  unfold get?
  rw [found]

theorem filled_of_proper (proper : (Store.table table).Proper) : table.Filled := by
  intro row there
  have found : (Store.table table).entryAt? ⟨row.id⟩ = some (.text row) :=
    mem_pairs.1 (List.mem_map.2 ⟨row, there, rfl⟩)
  obtain ⟨_, ⟨visibility, shown⟩, ⟨instant, dated⟩⟩ := proper _ _ found
  exact ⟨visibility, instant, shown, dated⟩

theorem pairwise_listed (table : Table) (requester : UserId) :
    (table.listed requester).Pairwise fun first second => second.updatedAt ≤ first.updatedAt :=
  pairwise_greatestFirst Row.updatedAt _

theorem nodup_listed (table : Table) (requester : UserId) :
    ((table.listed requester).map Row.id).Nodup := by
  have perm : (table.listed requester).Perm (table.rows.filter (·.isListedFor requester)) :=
    (List.mergeSort_perm _ _).trans (List.reverse_perm _)
  rw [(perm.map Row.id).nodup_iff]
  exact (List.filter_sublist.map Row.id).nodup table.distinct

/-- Whatever a user is listed has a time in a year of four digits. -/
def TimelyFor (table : Table) (requester : UserId) : Prop :=
  ∀ row ∈ table.rows, row.isListedFor requester = true →
    ∃ instant : Time.Instant, row.updatedAt = instant.microsText ∧ instant.FourDigits

theorem TimelyFor.selected (timely : table.TimelyFor requester) (filled : table.Filled)
    {row : Row} (member : row ∈ table.listed requester) :
    ∃ instant record, row.Selected instant record := by
  obtain ⟨there, shown⟩ := mem_listed.1 member
  obtain ⟨visibility, _, written⟩ := filled row there
  obtain ⟨instant, dated, digits⟩ := timely row there shown
  have refilled : row.Filled visibility instant := ⟨written.shown, dated⟩
  exact ⟨instant, refilled.selected digits⟩

theorem listing (proper : (Store.table table).Proper) (timely : table.TimelyFor requester) :
    Listing (.table table) requester
      ((table.listed requester).filterMap fun row => row.summary.toOption) := by
  have filled := filled_of_proper proper
  constructor
  case once =>
    rw [List.Nodup, List.pairwise_map, List.pairwise_filterMap]
    apply (List.pairwise_map.1 (nodup_listed table requester)).imp_of_mem
    intro first second oneMember twoMember different one oneGiven two twoGiven same
    obtain ⟨_, _, oneSelected⟩ := timely.selected filled oneMember
    obtain ⟨_, _, twoSelected⟩ := timely.selected filled twoMember
    have oneId := oneSelected.id
    have twoId := twoSelected.id
    rw [oneSelected.toOption] at oneGiven
    rw [twoSelected.toOption] at twoGiven
    cases oneGiven
    cases twoGiven
    exact different (congrArg DocumentId.text (oneId.symm.trans (same.trans twoId)))
  case mem_iff =>
    intro summary
    rw [List.mem_filterMap]
    constructor
    · rintro ⟨row, member, given⟩
      obtain ⟨_, record, selected⟩ := timely.selected filled member
      obtain ⟨there, shown⟩ := mem_listed.1 member
      rw [selected.toOption] at given
      cases given
      refine ⟨record, ?_, Row.isListedFor_of_record selected.read requester ▸ shown, rfl⟩
      show table.get? record.id = _
      rw [selected.id, get?_of_mem there, selected.read]
      rfl
    · rintro ⟨record, found, visible, rfl⟩
      obtain ⟨entry, kept, read⟩ := get?_eq_some.1 found
      obtain ⟨row, there, rfl⟩ := Option.map_eq_some_iff.1 kept
      have read : row.record = .ok record := read
      have member : row ∈ table.listed requester := by
        refine mem_listed.2 ⟨List.mem_of_find?_eq_some there, ?_⟩
        rw [Row.isListedFor_of_record read, visible]
      obtain ⟨_, other, selected⟩ := timely.selected filled member
      have same := selected.read
      rw [read] at same
      cases same
      exact ⟨row, member, selected.toOption⟩
  case newestFirst =>
    rw [List.pairwise_filterMap]
    apply (pairwise_listed table requester).imp_of_mem
    intro first second oneMember twoMember order one oneGiven two twoGiven
    obtain ⟨earlier, _, oneSelected⟩ := timely.selected filled oneMember
    obtain ⟨later, _, twoSelected⟩ := timely.selected filled twoMember
    have ordered := oneSelected.notBefore twoSelected order
    rw [oneSelected.toOption] at oneGiven
    rw [twoSelected.toOption] at twoGiven
    cases oneGiven
    cases twoGiven
    exact ordered

end Table

/-! ## Every state -/

/-- Whatever a user is listed can be read: in memory as it is, and in a table if its time
is in a year of four digits. -/
def TimelyFor (requester : UserId) : Store → Prop
  | .memory _ => True
  | .table rows => rows.TimelyFor requester

namespace Obtainable

variable {store : Store} {requester : UserId}

theorem list_of_timely (obtainable : store.Obtainable) (timely : store.TimelyFor requester) :
    ∃ summaries, store.list requester = .ok summaries ∧ Listing store requester summaries := by
  have proper := obtainable.proper
  cases store with
  | memory records => exact ⟨_, rfl, MemoryStore.listing proper requester⟩
  | table rows =>
      have read : rows.list requester = .ok _ :=
        (Table.filled_of_proper proper).list_of_fourDigits timely
      exact ⟨_, read, Table.listing proper timely⟩

theorem list_of_late (obtainable : store.Obtainable) (late : ¬store.TimelyFor requester) :
    store.list requester = .error (signedTime 7) := by
  have proper := obtainable.proper
  cases store with
  | memory records => exact absurd trivial late
  | table rows =>
      have filled := Table.filled_of_proper proper
      simp only [TimelyFor, Table.TimelyFor] at late
      push Not at late
      obtain ⟨row, there, shown, signed⟩ := late
      obtain ⟨_, instant, written⟩ := filled row there
      exact filled.list_of_signed there shown written.dated (signed instant written.dated)

/-- A time with a sign is all that keeps a document from being read back. -/
theorem damage?_eq (obtainable : store.Obtainable) {id : DocumentId} {failure : Failure}
    (damaged : store.damage? id = some failure) : failure = signedTime 9 := by
  obtain ⟨entry, found, fails⟩ := Option.bind_eq_some_iff.1 damaged
  cases entry with
  | structured record => cases fails
  | text row =>
      obtain ⟨_, ⟨visibility, shown⟩, ⟨instant, dated⟩⟩ := obtainable.proper id _ found
      have written : row.Filled visibility instant := ⟨shown, dated⟩
      simp only [Entry.damage?, written.damage?_eq] at fails
      split at fails
      · cases fails
      · exact (Option.some.inj fails).symm

end Obtainable

end BlockMail.Store
