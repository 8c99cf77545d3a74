import Mathlib.Data.List.Nodup
import Mathlib.Data.List.Perm.Basic
import BlockMail.Proofs.Store.Entry
import BlockMail.Proofs.Store.Rows
import BlockMail.Proofs.Time.TextOrder

/-!
# Listings of documents

A store of documents, seen as a map from identifiers to documents. The memory store
sorts times and a table sorts their texts, from opposite ends of the insertion order,
so it takes distinct times for both to list the same documents in the same order.
-/

set_option autoImplicit false

namespace BlockMail

/-- The summary with the time that a table keeps of it. -/
def Summary.truncated (summary : Summary) : Summary :=
  { summary with updatedAt := summary.updatedAt.truncateMicros }

/-- A document under its identifier that can be read back from a table, but for what lies
below a microsecond. -/
structure Document.Tabular (id : DocumentId) (document : Document) : Prop where
  named : document.id = id
  reparses : Blocks.Reparses document.blocks
  years : document.updatedAt.FourDigits

namespace Store

/-! ## Entries in the order of the store -/

/-- Memory stores are in order of the identifiers and tables in order of insertion. -/
def pairs : Store → List (DocumentId × Entry)
  | .memory store => store.records.entries.map fun pair => (⟨pair.1⟩, .structured pair.2)
  | .table rows => rows.rows.map fun row => (⟨row.id⟩, .text row)

theorem nodup_pairs (store : Store) : (store.pairs.map Prod.fst).Nodup := by
  cases store with
  | memory store =>
      have distinct := store.records.nodup_keys
      apply List.Nodup.of_map DocumentId.text
      simpa [pairs, Function.comp_def] using distinct
  | table table =>
      have distinct := table.distinct
      apply List.Nodup.of_map DocumentId.text
      simpa [pairs, Function.comp_def] using distinct

theorem mem_pairs {store : Store} {id : DocumentId} {entry : Entry} :
    (id, entry) ∈ store.pairs ↔ store.entryAt? id = some entry := by
  cases store with
  | memory store =>
      simp only [pairs, entryAt?, MemoryStore.get?, List.mem_map, Option.map_eq_some_iff,
        ByKey.get?_eq_some_iff]
      constructor
      · rintro ⟨⟨key, record⟩, member, same⟩
        cases same
        exact ⟨record, member, rfl⟩
      · rintro ⟨record, member, rfl⟩
        exact ⟨_, member, rfl⟩
  | table table =>
      simp only [pairs, entryAt?, List.mem_map, Option.map_eq_some_iff]
      constructor
      · rintro ⟨row, member, same⟩
        cases same
        exact ⟨row, Keyed.find?_key_of_mem Row.id table.distinct member, rfl⟩
      · rintro ⟨row, found, rfl⟩
        refine ⟨row, List.mem_of_find?_eq_some found, ?_⟩
        rw [Table.id_of_row? found]

/-- No two documents have the same time, down to the microsecond. -/
def DistinctTimes : Store → Prop
  | .memory store =>
      (store.records.values.map fun record => record.updatedAt.truncateMicros).Nodup
  | .table rows => (rows.rows.map Row.updatedAt).Nodup

instance : (store : Store) → Decidable store.DistinctTimes
  | .memory store => inferInstanceAs (Decidable
      (store.records.values.map fun record => record.updatedAt.truncateMicros).Nodup)
  | .table rows => inferInstanceAs (Decidable (rows.rows.map Row.updatedAt).Nodup)

/-! ## The documents of a store -/

private theorem map_eq_map_filterMap {Element Image Result : Type}
    {select : Element → Option Image} {shown : Element → Result} {show' : Image → Result}
    {elements : List Element}
    (each : ∀ element ∈ elements, ∃ image, select element = some image ∧
      shown element = show' image) :
    elements.map shown = (elements.filterMap select).map show' := by
  induction elements with
  | nil => rfl
  | cons first rest ih =>
      obtain ⟨image, selected, same⟩ := each first List.mem_cons_self
      rw [List.filterMap_cons_some selected, List.map_cons, List.map_cons, same,
        ih fun element member => each element (List.mem_cons_of_mem _ member)]

/-- The entries are those of the documents that are held. -/
structure Represents (store : Store) (held : DocumentId → Option Document) : Prop where
  entries : ∀ id, store.entryAt? id = (held id).map (Entry.ofDocument store.backend)
  tabular : ∀ id document, held id = some document → document.Tabular id

/-- The documents that are held, in the order of the store. -/
def documents (store : Store) (held : DocumentId → Option Document) : List Document :=
  store.pairs.filterMap fun pair => held pair.1

namespace Represents

variable {store other : Store} {held : DocumentId → Option Document}

theorem held_of_mem (represents : store.Represents held) {pair : DocumentId × Entry}
    (member : pair ∈ store.pairs) :
    ∃ document, held pair.1 = some document ∧ pair.1 = document.id ∧
      pair.2 = .ofDocument store.backend document := by
  obtain ⟨id, entry⟩ := pair
  have found := mem_pairs.1 member
  rw [represents.entries] at found
  obtain ⟨document, holds, rfl⟩ := Option.map_eq_some_iff.1 found
  exact ⟨document, holds, (represents.tabular id document holds).named.symm, rfl⟩

theorem entries_eq (represents : store.Represents held) :
    store.pairs.map Prod.snd =
      (store.documents held).map (Entry.ofDocument store.backend) := by
  apply map_eq_map_filterMap
  intro pair member
  obtain ⟨document, holds, _, entry⟩ := represents.held_of_mem member
  exact ⟨document, holds, entry⟩

theorem nodup_documents (represents : store.Represents held) :
    (store.documents held).Nodup := by
  have ids : store.pairs.map Prod.fst = (store.documents held).map Document.id := by
    apply map_eq_map_filterMap
    intro pair member
    obtain ⟨document, holds, named, _⟩ := represents.held_of_mem member
    exact ⟨document, holds, named⟩
  exact List.Nodup.of_map Document.id (ids ▸ store.nodup_pairs)

theorem mem_documents (represents : store.Represents held) {document : Document} :
    document ∈ store.documents held ↔ held document.id = some document := by
  unfold documents
  rw [List.mem_filterMap]
  constructor
  · rintro ⟨pair, _, holds⟩
    rw [(represents.tabular pair.1 document holds).named]
    exact holds
  · intro holds
    have found : store.entryAt? document.id =
        some (.ofDocument store.backend document) := by
      rw [represents.entries, holds]
      rfl
    exact ⟨_, mem_pairs.2 found, holds⟩

theorem documents_perm (left : store.Represents held) (right : other.Represents held) :
    (store.documents held).Perm (other.documents held) := by
  rw [List.perm_ext_iff_of_nodup left.nodup_documents right.nodup_documents]
  intro document
  rw [left.mem_documents, right.mem_documents]

theorem fourDigits (represents : store.Represents held) :
    ∀ document ∈ store.documents held, document.updatedAt.FourDigits := by
  intro document member
  exact (represents.tabular document.id document (represents.mem_documents.1 member)).years

end Represents

/-! ## Elements beside what they read as -/

section Selections

variable {Element Result Cause : Type} {read : Element → Except Cause Result}

/-- A selection that succeeds pairs its elements with what they read as. -/
theorem exists_pairs_of_mapM {elements : List Element} {results : List Result}
    (all : elements.mapM read = .ok results) :
    ∃ pairs : List (Element × Result), pairs.map Prod.fst = elements ∧
      pairs.map Prod.snd = results ∧ ∀ pair ∈ pairs, read pair.1 = .ok pair.2 := by
  induction elements generalizing results with
  | nil =>
      cases all
      exact ⟨[], rfl, rfl, by simp⟩
  | cons first rest ih =>
      rw [List.mapM_cons] at all
      obtain ⟨result, here, all⟩ := exists_of_bind all
      obtain ⟨others, there, all⟩ := exists_of_bind all
      cases all
      obtain ⟨pairs, firsts, seconds, each⟩ := ih there
      refine ⟨(first, result) :: pairs, by simp [firsts], by simp [seconds], ?_⟩
      simpa [here] using each

theorem mapM_pairs {pairs : List (Element × Result)}
    (each : ∀ pair ∈ pairs, read pair.1 = .ok pair.2) :
    (pairs.map Prod.fst).mapM read = .ok (pairs.map Prod.snd) := by
  induction pairs with
  | nil => rfl
  | cons first rest ih =>
      rw [List.map_cons, List.mapM_cons, each first List.mem_cons_self,
        ih fun pair member => each pair (List.mem_cons_of_mem _ member)]
      rfl

end Selections

/-! ## Sorted documents -/

/-- Sorting by the time, as the memory store does. -/
theorem pairwise_newestFirst {Element : Type} (time : Element → Time.Instant)
    (elements : List Element) :
    (elements.mergeSort fun first second => (time first).notBefore (time second)).Pairwise
      fun first second => (time first).notBefore (time second) = true := by
  apply List.pairwise_mergeSort
  · intro first second third
    exact Time.Instant.notBefore_trans (time first) (time second) (time third)
  · intro first second
    exact Time.Instant.notBefore_total (time first) (time second)

/-- Sorting by the text of the time, as a table does. -/
theorem pairwise_greatestFirst {Element : Type} (text : Element → String)
    (elements : List Element) :
    (elements.mergeSort fun first second => decide (text second ≤ text first)).Pairwise
      fun first second => text second ≤ text first := by
  have sorted : (elements.mergeSort fun first second =>
      decide (text second ≤ text first)).Pairwise
      fun first second => decide (text second ≤ text first) = true := by
    apply List.pairwise_mergeSort
    · intro first second third one two
      rw [decide_eq_true_eq] at one two ⊢
      exact le_trans two one
    · intro first second
      rw [Bool.or_eq_true, decide_eq_true_eq, decide_eq_true_eq]
      exact le_total _ _
  simpa only [decide_eq_true_eq] using sorted

/-- The documents that a user may read, newest first. -/
def newestFirst (documents : List Document) (requester : UserId) : List Document :=
  (documents.filter (·.isVisibleTo requester)).mergeSort
    fun first second => first.updatedAt.notBefore second.updatedAt

theorem MemoryStore.list_eq {store : MemoryStore} {documents : List Document}
    (kept : store.records.values = documents.map Document.toRecord) (requester : UserId) :
    store.list requester = (newestFirst documents requester).map Document.summary := by
  unfold MemoryStore.list newestFirst
  rw [kept, List.filter_map, List.map_map]
  exact (List.map_mergeSort (f := Document.summary) fun _ _ _ _ => rfl).symm

theorem mapM_summary {documents : List Document}
    (years : ∀ document ∈ documents, document.updatedAt.FourDigits) :
    (documents.map Row.ofDocument).mapM Row.summary =
      .ok (documents.map fun document => document.summary.truncated) := by
  let pairs := documents.map fun document => (Row.ofDocument document, document.summary.truncated)
  have each : ∀ pair ∈ pairs, Row.summary pair.1 = .ok pair.2 := by
    intro pair member
    obtain ⟨document, there, rfl⟩ := List.mem_map.1 member
    exact Row.summary_ofDocument document (years document there)
  simpa [pairs, Function.comp_def] using mapM_pairs each

theorem Row.isListedFor_eq {row : Row} {visibility : Visibility}
    (named : row.visibility = visibility.name) (requester : UserId) :
    row.isListedFor requester =
      (visibility == .everyone || (⟨row.owner⟩ : UserId) == requester) := by
  unfold isListedFor
  rw [named]
  congr 1
  · cases visibility <;> rfl
  · rw [Bool.eq_iff_iff, beq_iff_eq, beq_iff_eq, ← UserId.text_inj]

theorem Row.isListedFor_ofDocument (document : Document) (requester : UserId) :
    (ofDocument document).isListedFor requester = document.isVisibleTo requester :=
  isListedFor_eq rfl requester

theorem Table.list_eq {table : Table} {documents : List Document}
    (kept : table.rows = documents.map Row.ofDocument)
    (years : ∀ document ∈ documents, document.updatedAt.FourDigits) (requester : UserId) :
    table.list requester =
      .ok (((documents.filter (·.isVisibleTo requester)).reverse.mergeSort
        fun first second => decide
          (second.updatedAt.microsText ≤ first.updatedAt.microsText)).map
        fun document => document.summary.truncated) := by
  unfold Table.list
  rw [kept, List.filter_map, ← List.map_reverse]
  simp only [Function.comp_def, Row.isListedFor_ofDocument]
  rw [← List.map_mergeSort (f := Row.ofDocument) (r := fun first second => decide
    (second.updatedAt.microsText ≤ first.updatedAt.microsText))
    (s := fun first second => decide (second.updatedAt ≤ first.updatedAt))
    fun _ _ _ _ => rfl]
  apply mapM_summary
  intro document member
  rw [List.mem_mergeSort, List.mem_reverse, List.mem_filter] at member
  exact years document member.1

/-- Where no two documents share a time, down to the microsecond, only one order of them
has the newest first. -/
theorem newestFirst_eq {left right : List Document} (same : left.Perm right)
    (years : ∀ document ∈ left, document.updatedAt.FourDigits)
    (distinct : (left.map fun document => document.updatedAt.truncateMicros).Nodup)
    (requester : UserId) :
    newestFirst left requester =
      (right.filter (·.isVisibleTo requester)).reverse.mergeSort fun first second =>
        decide (second.updatedAt.microsText ≤ first.updatedAt.microsText) := by
  have ofSorted {document : Document} (member : document ∈ newestFirst left requester) :
      document ∈ left := by
    unfold newestFirst at member
    rw [List.mem_mergeSort, List.mem_filter] at member
    exact member.1
  have byTime : (newestFirst left requester).Pairwise fun first second =>
      second.updatedAt.microsText ≤ first.updatedAt.microsText := by
    have sorted := pairwise_newestFirst Document.updatedAt
      (left.filter (·.isVisibleTo requester))
    apply sorted.imp_of_mem
    intro first second one two order
    exact Time.Instant.microsText_le_of_notBefore (years first (ofSorted one))
      (years second (ofSorted two)) order
  have byText := pairwise_greatestFirst (fun document : Document => document.updatedAt.microsText)
    (right.filter (·.isVisibleTo requester)).reverse
  have perm : (newestFirst left requester).Perm
      ((right.filter (·.isVisibleTo requester)).reverse.mergeSort fun first second =>
        decide (second.updatedAt.microsText ≤ first.updatedAt.microsText)) := by
    apply (List.mergeSort_perm _ _).trans
    apply (same.filter _).trans
    exact (List.reverse_perm _).symm.trans (List.mergeSort_perm _ _).symm
  refine perm.eq_of_pairwise ?_ byTime byText
  intro first second one two below above
  have there := ofSorted one
  have here := ofSorted (perm.mem_iff.2 two)
  exact List.inj_on_of_nodup_map distinct there here
    (Time.Instant.truncateMicros_of_microsText (years first there) (years second here)
      (le_antisymm above below))

/-! ## Both listings -/

section Both

variable {store : MemoryStore} {table : Table} {held : DocumentId → Option Document}

theorem Represents.values_eq (represents : (Store.memory store).Represents held) :
    store.records.values = ((Store.memory store).documents held).map Document.toRecord := by
  have entries : (Store.memory store).pairs.map Prod.snd =
      ((Store.memory store).documents held).map fun document =>
        .structured document.toRecord := represents.entries_eq
  apply List.map_injective_iff.2 (fun _ _ => Entry.structured.inj)
  simpa [pairs, ByKey.values, Function.comp_def] using entries

theorem Represents.rows_eq (represents : (Store.table table).Represents held) :
    table.rows = ((Store.table table).documents held).map Row.ofDocument := by
  have entries : (Store.table table).pairs.map Prod.snd =
      ((Store.table table).documents held).map fun document =>
        .text (Row.ofDocument document) := represents.entries_eq
  apply List.map_injective_iff.2 (fun _ _ => Entry.text.inj)
  simpa [pairs, Function.comp_def] using entries

theorem Represents.list_memory (represents : (Store.memory store).Represents held)
    (requester : UserId) :
    (Store.memory store).list requester =
      .ok ((newestFirst ((Store.memory store).documents held) requester).map
        Document.summary) :=
  congrArg Except.ok (MemoryStore.list_eq represents.values_eq requester)

/-- Tables list what memory stores of the same documents list, with the times that they
keep. -/
theorem Represents.list_table (represents : (Store.table table).Represents held)
    (structured : (Store.memory store).Represents held)
    (distinct : (Store.memory store).DistinctTimes) (requester : UserId) :
    (Store.table table).list requester =
      .ok ((newestFirst ((Store.memory store).documents held) requester).map
        fun document => document.summary.truncated) := by
  have times : (((Store.memory store).documents held).map fun document =>
      document.updatedAt.truncateMicros).Nodup := by
    simp only [DistinctTimes, structured.values_eq, List.map_map] at distinct
    exact distinct
  rw [newestFirst_eq (structured.documents_perm represents) structured.fourDigits times]
  exact Table.list_eq represents.rows_eq represents.fourDigits requester

end Both

/-! ## What is listed -/

/-- Every entry is under its own identifier, as those are that were inserted. -/
def Named (store : Store) : Prop :=
  ∀ id entry, store.entryAt? id = some entry → entry.id = id

/-- Whoever is listed a template may see it. -/
theorem mem_list {store : Store} (named : store.Named) {requester : UserId}
    {summaries : List Summary} (listed : store.list requester = .ok summaries)
    {summary : Summary} (member : summary ∈ summaries) :
    ∃ entry, store.entryAt? summary.id = some entry ∧
      (entry.visibilityName = Visibility.everyone.name ∨ entry.owner = requester) := by
  cases store with
  | memory records =>
      have listed := Except.ok.inj listed
      rw [← listed] at member
      unfold MemoryStore.list at member
      rw [List.mem_mergeSort] at member
      obtain ⟨record, shown, rfl⟩ := List.mem_map.1 member
      obtain ⟨there, visible⟩ := List.mem_filter.1 shown
      obtain ⟨pair, kept, rfl⟩ := List.mem_map.1 there
      have found : (Store.memory records).entryAt? ⟨pair.1⟩ = some (.structured pair.2) :=
        mem_pairs.1 (List.mem_map.2 ⟨pair, kept, rfl⟩)
      have own : pair.2.summary.id = ⟨pair.1⟩ := named _ _ found
      refine ⟨.structured pair.2, ?_, ?_⟩
      · rw [own]
        exact found
      · rw [DocumentRecord.isVisibleTo, Bool.or_eq_true, beq_iff_eq, beq_iff_eq] at visible
        rcases visible with shown | owned
        · exact .inl (congrArg Visibility.name shown)
        · exact .inr owned
  | table table =>
      obtain ⟨pairs, rows, results, each⟩ := exists_pairs_of_mapM listed
      rw [← results, List.mem_map] at member
      obtain ⟨⟨row, _⟩, paired, rfl⟩ := member
      have read : row.summary = .ok _ := each _ paired
      have there := List.mem_map_of_mem (f := Prod.fst) paired
      rw [rows, List.mem_mergeSort, List.mem_reverse] at there
      obtain ⟨kept, shown⟩ := List.mem_filter.1 there
      have found : (Store.table table).entryAt? ⟨row.id⟩ = some (.text row) :=
        mem_pairs.1 (List.mem_map.2 ⟨row, kept, rfl⟩)
      refine ⟨.text row, ?_, ?_⟩
      · rw [Row.id_of_summary read]
        exact found
      · rw [Row.isListedFor, Bool.or_eq_true, beq_iff_eq, beq_iff_eq] at shown
        rcases shown with everyone | owned
        · exact .inl everyone
        · exact .inr (UserId.text_inj.1 owned)

end Store

end BlockMail
