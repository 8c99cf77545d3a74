import BlockMail.Proofs.Keyed.Lookup
import BlockMail.Store.Basic

/-!
# Entries of a store

Both kinds of stores seen as a map from identifiers to entries. An entry is what
a store keeps of one document, a record in memory or a row of text. Every call
acts on each identifier's entry alone, so one equation says all that a call does
to a store.
-/

set_option autoImplicit false

namespace BlockMail

@[simp] theorem DocumentId.text_inj {left right : DocumentId} :
    left.text = right.text ↔ left = right := by
  cases left
  cases right
  simp

@[simp] theorem UserId.text_inj {left right : UserId} :
    left.text = right.text ↔ left = right := by
  cases left
  cases right
  simp

theorem Visibility.name_inj {left right : Visibility} (same : left.name = right.name) :
    left = right := by
  cases left <;> cases right <;> first | rfl | simp [Visibility.name] at same

theorem Visibility.everyone_of_ne {visibility : Visibility}
    (shown : visibility ≠ .ownerOnly) : visibility = .everyone := by
  cases visibility with
  | everyone => rfl
  | ownerOnly => exact absurd rfl shown

namespace Store

inductive Backend where
  | memory
  | table
deriving DecidableEq

def backend : Store → Backend
  | .memory _ => .memory
  | .table _ => .table

def empty : Backend → Store
  | .memory => .memory .empty
  | .table => .table .empty

/-- What a store keeps of one document. -/
inductive Entry where
  | structured (record : DocumentRecord)
  | text (row : Row)

namespace Entry

def id : Entry → DocumentId
  | .structured record => record.id
  | .text row => ⟨row.id⟩

def owner : Entry → UserId
  | .structured record => record.owner
  | .text row => ⟨row.owner⟩

def name : Entry → String
  | .structured record => record.name
  | .text row => row.name

def category : Entry → String
  | .structured record => record.category
  | .text row => row.category

def subject : Entry → String
  | .structured record => record.subject
  | .text row => row.subject

def description : Entry → Option String
  | .structured record => record.description
  | .text row => row.description

/-- The visibility as it is written in a row. -/
def visibilityName : Entry → String
  | .structured record => record.visibility.name
  | .text row => row.visibility

def forkedFrom : Entry → Option DocumentId
  | .structured record => record.forkedFrom
  | .text row => row.forkedFrom.map DocumentId.mk

/-- The stored blocks, structured or as text. -/
def blocks : Entry → Json
  | .structured record => record.blocks
  | .text row => .string row.blocks

/-- Whether an entry holds blocks, as a store of its kind writes them. -/
def Holds (blocks : List Block) : Entry → Prop
  | .structured record => record.blocks = Blocks.toJson blocks
  | .text row => row.blocks = Row.blocksText blocks

/-- Whether an entry bears a time, as a store of its kind writes it. -/
def Dated (now : Time.Instant) : Entry → Prop
  | .structured record => record.updatedAt = now
  | .text row => row.updatedAt = now.microsText

/-- The record that a store hands back for an entry. -/
def read : Entry → Except Failure DocumentRecord
  | .structured record => .ok record
  | .text row => row.record

/-- What a store of a kind keeps of a new document. -/
def ofDocument : Backend → Document → Entry
  | .memory, document => .structured document.toRecord
  | .table, document => .text (Row.ofDocument document)

/-- The entry with the fields of an update, at a new time. -/
def updated (entry : Entry) (update : FieldUpdate) (now : Time.Instant) : Entry :=
  match entry with
  | .structured record => .structured (record.updated update now)
  | .text row => .text (row.updated update now)

@[simp] theorem id_updated (entry : Entry) (update : FieldUpdate)
    (now : Time.Instant) : (entry.updated update now).id = entry.id := by
  cases entry <;> rfl

@[simp] theorem owner_updated (entry : Entry) (update : FieldUpdate)
    (now : Time.Instant) : (entry.updated update now).owner = entry.owner := by
  cases entry <;> rfl

@[simp] theorem forkedFrom_updated (entry : Entry) (update : FieldUpdate)
    (now : Time.Instant) :
    (entry.updated update now).forkedFrom = entry.forkedFrom := by
  cases entry <;> rfl

@[simp] theorem id_ofDocument (backend : Backend) (document : Document) :
    (ofDocument backend document).id = document.id := by
  cases backend <;> rfl

@[simp] theorem owner_ofDocument (backend : Backend) (document : Document) :
    (ofDocument backend document).owner = document.owner := by
  cases backend <;> rfl

theorem forkedFrom_ofDocument (backend : Backend) (document : Document) :
    (ofDocument backend document).forkedFrom = document.forkedFrom := by
  cases backend with
  | memory => rfl
  | table =>
      cases origin : document.forkedFrom <;>
        simp [ofDocument, forkedFrom, Row.ofDocument, origin]

end Entry

/-- A record that says of a document what an entry says. -/
structure Entry.ReadsAs (entry : Entry) (record : DocumentRecord) : Prop where
  id : record.id = entry.id
  owner : record.owner = entry.owner
  name : record.name = entry.name
  category : record.category = entry.category
  subject : record.subject = entry.subject
  description : record.description = entry.description
  visibility : record.visibility.name = entry.visibilityName
  forkedFrom : record.forkedFrom = entry.forkedFrom
  blocks : record.blocks = entry.blocks

theorem Row.visibility_of_read {row : Row} {column : Nat} {visibility : Visibility}
    (read : row.readVisibility column = .ok visibility) :
    visibility.name = row.visibility := by
  unfold readVisibility at read
  split at read
  · rename_i found
    cases read
    simpa using List.find?_some found
  · cases read

theorem Entry.readsAs {entry : Entry} {record : DocumentRecord}
    (read : entry.read = .ok record) : entry.ReadsAs record := by
  cases entry with
  | structured kept =>
      cases read
      exact ⟨rfl, rfl, rfl, rfl, rfl, rfl, rfl, rfl, rfl⟩
  | text row =>
      simp only [Entry.read, Row.record, bind, Except.bind] at read
      split at read
      · cases read
      · rename_i visibility found
        split at read
        · cases read
        · cases read
          exact ⟨rfl, rfl, rfl, rfl, rfl, rfl, Row.visibility_of_read found, rfl, rfl⟩

/-- Why a row is not read back, where its visibility or its time does not parse. -/
def Row.damage? (row : Row) : Option Failure :=
  match row.record with
  | .ok _ => none
  | .error failure => some failure

/-- Why an entry is not read back. A memory store reads back all that it keeps. -/
def Entry.damage? : Entry → Option Failure
  | .structured _ => none
  | .text row => row.damage?

theorem Row.damage?_eq_none {row : Row} :
    row.damage? = none ↔ ∃ record, row.record = .ok record := by
  unfold damage?
  cases row.record <;> simp

theorem Row.damage?_eq_some {row : Row} {failure : Failure} :
    row.damage? = some failure ↔ row.record = .error failure := by
  unfold damage?
  cases row.record <;> simp

theorem Entry.damage?_eq_none {entry : Entry} :
    entry.damage? = none ↔ ∃ record, entry.read = .ok record := by
  cases entry with
  | structured record => simp [damage?, read]
  | text row => exact Row.damage?_eq_none

theorem Entry.damage?_eq_some {entry : Entry} {failure : Failure} :
    entry.damage? = some failure ↔ entry.read = .error failure := by
  cases entry with
  | structured record => simp [damage?, read]
  | text row => exact Row.damage?_eq_some

def entryAt? : Store → DocumentId → Option Entry
  | .memory store, id => (store.get? id).map .structured
  | .table rows, id => (rows.row? id).map .text

/-- Why the document under an identifier is not read back, if there is one. -/
def damage? (store : Store) (id : DocumentId) : Option Failure :=
  (store.entryAt? id).bind Entry.damage?

/-- A memory store keeps no text. -/
theorem backend_of_text {store : Store} {id : DocumentId} {row : Row}
    (found : store.entryAt? id = some (.text row)) : store.backend = .table := by
  cases store with
  | memory records => simp [entryAt?] at found
  | table rows => rfl

theorem backend_of_structured {store : Store} {id : DocumentId} {record : DocumentRecord}
    (found : store.entryAt? id = some (.structured record)) : store.backend = .memory := by
  cases store with
  | memory records => rfl
  | table rows => simp [entryAt?] at found

@[simp] theorem entryAt?_empty (backend : Backend) (id : DocumentId) :
    (empty backend).entryAt? id = none := by
  cases backend <;> rfl

@[simp] theorem backend_empty (backend : Backend) :
    (empty backend).backend = backend := by
  cases backend <;> rfl

/-! ## The memory store -/

namespace MemoryStore

theorem get?_put (store : MemoryStore) (record : DocumentRecord)
    (id : DocumentId) :
    (store.put record).get? id =
      if id = record.id then some record else store.get? id := by
  simp only [get?, put, ByKey.get?_insert, DocumentId.text_inj]

theorem get?_updateIf (store : MemoryStore) (key : DocumentId)
    (admits : DocumentRecord → Bool) (update : FieldUpdate) (now : Time.Instant)
    (id : DocumentId) :
    (store.updateIf key admits update now).1.get? id =
      if id = key then
        (store.get? id).map fun record =>
          if admits record then record.updated update now else record
      else store.get? id := by
  unfold updateIf
  cases found : store.get? key with
  | none =>
      by_cases same : id = key
      · subst same
        simp [found]
      · simp [same]
  | some record =>
      by_cases admitted : admits record = true
      · simp only [Option.filter_some, admitted, ↓reduceIte]
        simp only [get?, ByKey.get?_insert, DocumentId.text_inj]
        by_cases same : id = key
        · subst same
          have present : store.records.get? id.text = some record := found
          simp [present, admitted]
        · simp [same]
      · by_cases same : id = key
        · subst same
          simp [found, Option.filter_some, admitted]
        · simp [Option.filter_some, admitted, same]

theorem count_updateIf (store : MemoryStore) (key : DocumentId)
    (admits : DocumentRecord → Bool) (update : FieldUpdate) (now : Time.Instant) :
    (store.updateIf key admits update now).2 =
      if (store.get? key).any admits then 1 else 0 := by
  unfold updateIf
  cases store.get? key with
  | none => rfl
  | some record =>
      by_cases admitted : admits record = true <;>
        simp [Option.filter_some, admitted]

theorem get?_updateOwned (store : MemoryStore) (key : DocumentId)
    (owner : UserId) (update : FieldUpdate) (now : Time.Instant)
    (id : DocumentId) :
    (store.updateOwned key owner update now).1.get? id =
      if id = key then
        (store.get? id).map fun record =>
          if record.owner = owner then record.updated update now else record
      else store.get? id := by
  simp only [updateOwned, get?_updateIf, beq_iff_eq]

theorem count_updateOwned (store : MemoryStore) (key : DocumentId)
    (owner : UserId) (update : FieldUpdate) (now : Time.Instant) :
    (store.updateOwned key owner update now).2 =
      if (store.get? key).any (fun record => record.owner = owner) then 1
      else 0 := by
  rw [updateOwned, count_updateIf]
  rfl

theorem get?_deleteOwned (store : MemoryStore) (key : DocumentId)
    (owner : UserId) (id : DocumentId) :
    (store.deleteOwned key owner).1.get? id =
      if id = key then
        (store.get? id).filter fun record => record.owner ≠ owner
      else store.get? id := by
  unfold deleteOwned
  cases found : store.get? key with
  | none =>
      by_cases same : id = key
      · subst same
        simp [found]
      · simp [same]
  | some record =>
      by_cases owned : record.owner = owner
      · simp only [Option.filter_some, owned, beq_self_eq_true, ↓reduceIte]
        simp only [get?, ByKey.get?_erase, DocumentId.text_inj]
        by_cases same : id = key
        · subst same
          have present : store.records.get? id.text = some record := found
          simp [present, Option.filter_some, owned]
        · simp [same]
      · by_cases same : id = key
        · subst same
          simp [found, Option.filter_some, owned]
        · simp [Option.filter_some, owned, same]

theorem count_deleteOwned (store : MemoryStore) (key : DocumentId)
    (owner : UserId) :
    (store.deleteOwned key owner).2 =
      if (store.get? key).any (fun record => record.owner = owner) then 1
      else 0 := by
  unfold deleteOwned
  cases store.get? key with
  | none => rfl
  | some record =>
      by_cases owned : record.owner = owner <;>
        simp [Option.filter_some, owned]

end MemoryStore

/-! ## The table -/

private theorem find?_key_of_absent {Element : Type} (key : Element → String)
    (wanted : String) (elements : List Element)
    (absent : wanted ∉ elements.map key) :
    elements.find? (fun element => key element == wanted) = none := by
  rw [List.find?_eq_none]
  intro element member same
  exact absent (List.mem_map.2 ⟨element, member, by simpa using same⟩)

/-- Where no two elements share a key, at most one element has a given key, so
the first of them decides whatever else is asked of it. -/
private theorem find?_key_and {Element : Type} (key : Element → String)
    (wanted : String) (test : Element → Bool) (elements : List Element)
    (distinct : (elements.map key).Nodup) :
    elements.find? (fun element => key element == wanted && test element) =
      (elements.find? fun element => key element == wanted).filter test := by
  induction elements with
  | nil => rfl
  | cons element rest ih =>
      obtain ⟨absent, distinct⟩ := List.nodup_cons.1 distinct
      by_cases here : key element = wanted
      · have noOther := find?_key_of_absent key wanted rest (here ▸ absent)
        by_cases passes : test element = true
        · simp [here, passes, Option.filter_some]
        · simp [here, passes, Option.filter_some, ih distinct, noOther]
      · simp [here, ih distinct]

private theorem countP_key_and {Element : Type} (key : Element → String)
    (wanted : String) (test : Element → Bool) (elements : List Element)
    (distinct : (elements.map key).Nodup) :
    elements.countP (fun element => key element == wanted && test element) =
      if (elements.find? fun element => key element == wanted).any test then 1
      else 0 := by
  induction elements with
  | nil => rfl
  | cons element rest ih =>
      obtain ⟨absent, distinct⟩ := List.nodup_cons.1 distinct
      by_cases here : key element = wanted
      · have noOther := find?_key_of_absent key wanted rest (here ▸ absent)
        by_cases passes : test element = true <;>
          simp [here, passes, ih distinct, noOther]
      · simp [here, ih distinct]

namespace Table

theorem row?_eq_none_iff (table : Table) (id : DocumentId) :
    table.row? id = none ↔ id.text ∉ table.rows.map Row.id := by
  simp [row?, List.find?_eq_none]

theorem id_of_row? {table : Table} {id : DocumentId} {row : Row}
    (found : table.row? id = some row) : row.id = id.text := by
  simpa using List.find?_some found

/-- A change of the rows under one identifier that pass a test. -/
theorem row?_modifyWhere (table : Table) (key : DocumentId) (test : Row → Bool)
    {selects : Row → Bool}
    (chosen : ∀ row, selects row = (row.id == key.text && test row)) (change : Row → Row)
    (keepsId : ∀ row, (change row).id = row.id) (id : DocumentId) :
    (table.modifyWhere selects change keepsId).1.row? id =
      if id = key then (table.row? id).map fun row => if test row then change row else row
      else table.row? id := by
  have sameKeys : (fun row : Row => row.id == id.text) ∘ (fun row =>
      if selects row = true then change row else row) = fun row => row.id == id.text := by
    funext row
    simp only [Function.comp_apply]
    split
    · rw [keepsId]
    · rfl
  unfold modifyWhere row?
  rw [List.find?_map, sameKeys]
  cases found : table.rows.find? fun row => row.id == id.text with
  | none => simp
  | some row =>
      have named : row.id = id.text := id_of_row? found
      by_cases same : id = key
      · subst same
        simp [chosen, named]
      · simp [chosen, named, same]

theorem count_modifyWhere (table : Table) (key : DocumentId) (test : Row → Bool)
    {selects : Row → Bool}
    (chosen : ∀ row, selects row = (row.id == key.text && test row)) (change : Row → Row)
    (keepsId : ∀ row, (change row).id = row.id) :
    (table.modifyWhere selects change keepsId).2 =
      if (table.row? key).any test then 1 else 0 := by
  rw [funext chosen]
  exact countP_key_and Row.id key.text test table.rows table.distinct

theorem row?_update (table : Table) (key : DocumentId) (update : FieldUpdate)
    (now : Time.Instant) (id : DocumentId) :
    (table.update key update now).1.row? id =
      if id = key then (table.row? id).map fun row => row.updated update now
      else table.row? id := by
  have every (row : Row) : (row.id == key.text) = (row.id == key.text && true) := by simp
  have changed := row?_modifyWhere table key (fun _ => true) every
    (fun row => row.updated update now) (fun _ => rfl) id
  simp only [if_true] at changed
  exact changed

theorem count_update (table : Table) (key : DocumentId) (update : FieldUpdate)
    (now : Time.Instant) :
    (table.update key update now).2 = if (table.row? key).isSome then 1 else 0 := by
  have every (row : Row) : (row.id == key.text) = (row.id == key.text && true) := by simp
  have counted := count_modifyWhere table key (fun _ => true) every
    (fun row => row.updated update now) fun _ => rfl
  rw [Option.any_true] at counted
  exact counted

theorem row?_updateOwned (table : Table) (key : DocumentId) (owner : UserId)
    (update : FieldUpdate) (now : Time.Instant) (id : DocumentId) :
    (table.updateOwned key owner update now).1.row? id =
      if id = key then
        (table.row? id).map fun row =>
          if row.owner = owner.text then row.updated update now else row
      else table.row? id := by
  have changed := row?_modifyWhere table key (fun row => row.owner == owner.text)
    (fun _ => rfl) (fun row => row.updated update now) (fun _ => rfl) id
  simp only [beq_iff_eq] at changed
  exact changed

theorem count_updateOwned (table : Table) (key : DocumentId) (owner : UserId)
    (update : FieldUpdate) (now : Time.Instant) :
    (table.updateOwned key owner update now).2 =
      if (table.row? key).any (fun row => row.owner = owner.text) then 1
      else 0 :=
  count_modifyWhere table key (fun row => row.owner == owner.text) (fun _ => rfl)
    (fun row => row.updated update now) fun _ => rfl

theorem row?_deleteOwned (table : Table) (key : DocumentId) (owner : UserId)
    (id : DocumentId) :
    (table.deleteOwned key owner).1.row? id =
      if id = key then
        (table.row? id).filter fun row => row.owner ≠ owner.text
      else table.row? id := by
  unfold deleteOwned row?
  simp only [List.find?_filter]
  by_cases same : id = key
  · subst same
    have decided := find?_key_and Row.id id.text
      (fun row => !decide (row.owner = owner.text)) table.rows table.distinct
    rw [if_pos rfl, show (fun row : Row => decide (row.owner ≠ owner.text)) =
      fun row => !decide (row.owner = owner.text) by simp, ← decided]
    congr 1
    funext row
    by_cases named : row.id = id.text <;> simp [named]
  · rw [if_neg same]
    congr 1
    funext row
    by_cases named : row.id = id.text <;> simp [named, same]

theorem count_deleteOwned (table : Table) (key : DocumentId) (owner : UserId) :
    (table.deleteOwned key owner).2 =
      if (table.row? key).any (fun row => row.owner = owner.text) then 1
      else 0 := by
  exact countP_key_and Row.id key.text (fun row => row.owner = owner.text)
    table.rows table.distinct

end Table

/-! ## Either store -/

/-- What a call makes of the entry under an identifier. -/
def Call.effect (call : Call) (backend : Backend) (now : Time.Instant)
    (id : DocumentId) (kept : Option Entry) : Option Entry :=
  match call with
  | .get _ | .list _ => kept
  | .insert document =>
      if id = document.id then
        some (kept.getD (.ofDocument backend document))
      else kept
  | .updateOwned key owner update =>
      if id = key then
        kept.map fun entry =>
          if entry.owner = owner then entry.updated update now else entry
      else kept
  | .deleteOwned key owner =>
      if id = key then kept.filter fun entry => entry.owner ≠ owner
      else kept

/-- Whether there is an entry under an identifier that a user owns. -/
def owns (store : Store) (owner : UserId) (id : DocumentId) : Bool :=
  (store.entryAt? id).any fun entry => entry.owner = owner

theorem owns_iff {store : Store} {owner : UserId} {id : DocumentId} :
    store.owns owner id = true ↔
      ∃ entry, store.entryAt? id = some entry ∧ entry.owner = owner := by
  simp [owns, Option.any_eq_true]

/-- How a store of a kind says that an identifier is taken. -/
def Backend.taken : Backend → DocumentId → Failure
  | .memory, id => .alreadyExists id
  | .table, _ => .notUnique

theorem insert_of_present {store : Store} {document : Document}
    (present : store.entryAt? document.id ≠ none) :
    store.insert document = .error (store.backend.taken document.id) := by
  cases store with
  | memory store =>
      have taken : (store.get? document.id).isSome := by
        simpa [entryAt?, Option.isSome_iff_ne_none] using present
      simp [insert, MemoryStore.insert, taken, Except.map, backend, Backend.taken]
  | table rows =>
      have taken : document.id.text ∈ rows.rows.map Row.id := by
        simpa [entryAt?, Table.row?_eq_none_iff] using present
      simp only [insert, Table.insert, taken]
      rfl

/-- An insertion fails exactly when the identifier is taken. -/
theorem insert_eq_error_of_present {store : Store} {document : Document}
    (present : store.entryAt? document.id ≠ none) :
    ∃ failure, store.insert document = .error failure :=
  ⟨_, insert_of_present present⟩

theorem insert_of_absent {store : Store} {document : Document}
    (absent : store.entryAt? document.id = none) :
    ∃ next, store.insert document = .ok next ∧ next.backend = store.backend ∧
      ∀ id, next.entryAt? id =
        if id = document.id then some (.ofDocument store.backend document)
        else store.entryAt? id := by
  cases store with
  | memory store =>
      have free : store.get? document.id = none := by
        simpa [entryAt?] using absent
      refine ⟨.memory (store.put document.toRecord),
        by simp [insert, MemoryStore.insert, free, Except.map], rfl, ?_⟩
      intro id
      have sameId : document.toRecord.id = document.id := rfl
      simp only [entryAt?, MemoryStore.get?_put, sameId]
      split <;> rfl
  | table rows =>
      have free : document.id.text ∉ rows.rows.map Row.id := by
        simpa [entryAt?, Table.row?_eq_none_iff] using absent
      simp only [insert, Table.insert, dif_neg free, Except.map]
      refine ⟨_, rfl, rfl, ?_⟩
      intro id
      have named : (Row.ofDocument document).id = document.id.text := rfl
      simp only [entryAt?, Table.row?, List.find?_append]
      by_cases same : id = document.id
      · subst same
        have none := (Table.row?_eq_none_iff rows document.id).2 free
        simp only [Table.row?] at none
        simp [none, named, backend, Entry.ofDocument]
      · have other : document.id ≠ id := fun equal => same equal.symm
        simp [named, same, other]

@[simp] theorem backend_update (store : Store) (key : DocumentId) (update : FieldUpdate)
    (now : Time.Instant) : (store.update key update now).1.backend = store.backend := by
  cases store <;> rfl

theorem entryAt?_update (store : Store) (key : DocumentId) (update : FieldUpdate)
    (now : Time.Instant) (id : DocumentId) :
    (store.update key update now).1.entryAt? id =
      if id = key then (store.entryAt? id).map fun entry => entry.updated update now
      else store.entryAt? id := by
  cases store with
  | memory store =>
      simp only [Store.update, mapFirst, entryAt?, MemoryStore.update,
        MemoryStore.get?_updateIf, if_true]
      split
      · cases store.get? id <;> rfl
      · rfl
  | table rows =>
      simp only [Store.update, mapFirst, entryAt?, Table.row?_update]
      split
      · cases rows.row? id <;> rfl
      · rfl

/-- An update by whoever it may be affects the document with the identifier. -/
theorem count_update (store : Store) (key : DocumentId) (update : FieldUpdate)
    (now : Time.Instant) :
    (store.update key update now).2 = if (store.entryAt? key).isSome then 1 else 0 := by
  cases store with
  | memory store =>
      simp only [Store.update, mapFirst, entryAt?, MemoryStore.update,
        MemoryStore.count_updateIf, Option.isSome_map]
      cases store.get? key <;> rfl
  | table rows =>
      simp only [Store.update, mapFirst, entryAt?, Table.count_update, Option.isSome_map]

@[simp] theorem backend_perform (store : Store) (now : Time.Instant)
    (call : Call) : (store.perform now call).1.backend = store.backend := by
  cases call with
  | get | list => rfl
  | insert document =>
      simp only [perform]
      cases free : store.entryAt? document.id with
      | none =>
          obtain ⟨next, added, kind, _⟩ := insert_of_absent free
          simp [added, kind]
      | some entry =>
          have present : store.entryAt? document.id ≠ none := by simp [free]
          obtain ⟨failure, refused⟩ := insert_eq_error_of_present present
          simp [refused]
  | updateOwned | deleteOwned => cases store <;> rfl

theorem entryAt?_perform (store : Store) (now : Time.Instant) (call : Call)
    (id : DocumentId) :
    (store.perform now call).1.entryAt? id =
      call.effect store.backend now id (store.entryAt? id) := by
  cases call with
  | get | list => rfl
  | insert document =>
      simp only [perform, Call.effect]
      cases free : store.entryAt? document.id with
      | none =>
          obtain ⟨next, added, _, entries⟩ := insert_of_absent free
          rw [added]
          by_cases same : id = document.id
          · subst same
            simp [entries, free]
          · simp [entries, same]
      | some entry =>
          have present : store.entryAt? document.id ≠ none := by simp [free]
          obtain ⟨failure, refused⟩ := insert_eq_error_of_present present
          rw [refused]
          by_cases same : id = document.id
          · subst same
            simp [free]
          · simp [same]
  | updateOwned key owner update =>
      cases store with
      | memory store =>
          simp only [perform, mapSecond, Store.updateOwned, mapFirst, entryAt?,
            MemoryStore.get?_updateOwned, Call.effect]
          split
          · cases store.get? id with
            | none => rfl
            | some record => by_cases owned : record.owner = owner <;>
                simp [owned, Entry.owner, Entry.updated]
          · rfl
      | table rows =>
          simp only [perform, mapSecond, Store.updateOwned, mapFirst, entryAt?,
            Table.row?_updateOwned, Call.effect]
          split
          · cases rows.row? id with
            | none => rfl
            | some row => by_cases owned : row.owner = owner.text <;>
                simp [owned, Entry.owner, Entry.updated, ← UserId.text_inj]
          · rfl
  | deleteOwned key owner =>
      cases store with
      | memory store =>
          simp only [perform, mapSecond, Store.deleteOwned, mapFirst, entryAt?,
            MemoryStore.get?_deleteOwned, Call.effect]
          split
          · cases store.get? id with
            | none => rfl
            | some record => by_cases owned : record.owner = owner <;>
                simp [owned, Entry.owner, Option.filter_some]
          · rfl
      | table rows =>
          simp only [perform, mapSecond, Store.deleteOwned, mapFirst, entryAt?,
            Table.row?_deleteOwned, Call.effect]
          split
          · cases rows.row? id with
            | none => rfl
            | some row => by_cases owned : row.owner = owner.text <;>
                simp [owned, Entry.owner, Option.filter_some, ← UserId.text_inj]
          · rfl

/-! ## What a call makes of one entry -/

section Effects

variable {backend : Backend} {now : Time.Instant} {id : DocumentId}

/-- A call that puts an entry where none was is the insertion of a document
under that identifier. -/
theorem effect_none {call : Call} {entry : Entry}
    (added : call.effect backend now id none = some entry) :
    ∃ document, call = .insert document ∧ document.id = id ∧
      entry = .ofDocument backend document := by
  cases call with
  | get | list => cases added
  | insert document =>
      simp only [Call.effect] at added
      split at added
      · rename_i same
        exact ⟨document, rfl, same.symm, by simpa using added.symm⟩
      · cases added
  | updateOwned key owner update =>
      simp only [Call.effect, Option.map_none, ite_self] at added
      cases added
  | deleteOwned key owner =>
      simp only [Call.effect, Option.filter_none, ite_self] at added
      cases added

/-- An entry that a call changes is updated or removed, on behalf of its owner. -/
theorem effect_some {call : Call} {entry : Entry}
    (changed : call.effect backend now id (some entry) ≠ some entry) :
    (∃ update, call = .updateOwned id entry.owner update ∧
      call.effect backend now id (some entry) =
        some (entry.updated update now)) ∨
    (call = .deleteOwned id entry.owner ∧
      call.effect backend now id (some entry) = none) := by
  cases call with
  | get | list => exact absurd rfl changed
  | insert document => simp [Call.effect] at changed
  | updateOwned key owner update =>
      by_cases same : id = key
      · subst same
        by_cases owned : entry.owner = owner
        · subst owned
          exact .inl ⟨update, rfl, by simp [Call.effect]⟩
        · simp [Call.effect, owned] at changed
      · simp [Call.effect, same] at changed
  | deleteOwned key owner =>
      by_cases same : id = key
      · subst same
        by_cases owned : entry.owner = owner
        · subst owned
          exact .inr ⟨rfl, by simp [Call.effect, Option.filter_some]⟩
        · simp [Call.effect, Option.filter_some, owned] at changed
      · simp [Call.effect, same] at changed

/-- What is left of an entry after a call has the same identity. -/
theorem effect_identity {call : Call} {kept entry : Entry}
    (left : call.effect backend now id (some kept) = some entry) :
    entry.id = kept.id ∧ entry.owner = kept.owner ∧
      entry.forkedFrom = kept.forkedFrom := by
  by_cases changed : call.effect backend now id (some kept) = some kept
  · rw [changed] at left
    cases left
    exact ⟨rfl, rfl, rfl⟩
  · rcases effect_some changed with ⟨update, _, updated⟩ | ⟨_, removed⟩
    · rw [updated] at left
      cases left
      simp
    · rw [removed] at left
      cases left

end Effects

/-! ## Answers -/

/-- A look-up answers what the entry reads as. -/
theorem get?_eq (store : Store) (id : DocumentId) :
    store.get? id =
      match store.entryAt? id with
      | none => .ok none
      | some entry => entry.read.map some := by
  cases store with
  | memory store =>
      simp only [get?, entryAt?]
      cases store.get? id <;> rfl
  | table rows =>
      simp only [get?, Table.get?, entryAt?]
      cases rows.row? id <;> rfl

/-- A record that is found is what an entry reads as. -/
theorem get?_eq_some {store : Store} {id : DocumentId} {record : DocumentRecord} :
    store.get? id = .ok (some record) ↔
      ∃ entry, store.entryAt? id = some entry ∧ entry.read = .ok record := by
  rw [get?_eq]
  constructor
  · intro given
    cases found : store.entryAt? id with
    | none =>
        rw [found] at given
        cases given
    | some entry =>
        rw [found] at given
        cases read : entry.read with
        | error failure =>
            simp only [read, Except.map] at given
            cases given
        | ok kept =>
            simp only [read, Except.map] at given
            cases given
            exact ⟨entry, rfl, read⟩
  · rintro ⟨entry, found, read⟩
    simp only [found, read, Except.map]

/-- A look-up fails exactly for a document that is not read back. -/
theorem get?_eq_error {store : Store} {id : DocumentId} {failure : Failure} :
    store.get? id = .error failure ↔ store.damage? id = some failure := by
  rw [get?_eq, damage?]
  cases store.entryAt? id with
  | none => simp
  | some entry =>
      rw [Option.bind_some, Entry.damage?_eq_some]
      dsimp only
      cases entry.read <;> simp [Except.map]

theorem read_of_damage?_eq_none {store : Store} {id : DocumentId} {entry : Entry}
    (found : store.entryAt? id = some entry) (whole : store.damage? id = none) :
    ∃ record, entry.read = .ok record := by
  rw [damage?, found] at whole
  exact Entry.damage?_eq_none.1 whole

theorem damage?_of_read {store : Store} {id : DocumentId} {entry : Entry}
    {record : DocumentRecord} (found : store.entryAt? id = some entry)
    (read : entry.read = .ok record) : store.damage? id = none := by
  rw [damage?, found]
  exact Entry.damage?_eq_none.2 ⟨record, read⟩

/-- A conditional change by an owner affects one document, and none by anybody
else. -/
theorem reply_updateOwned (store : Store) (now : Time.Instant)
    (id : DocumentId) (owner : UserId) (update : FieldUpdate) :
    (store.perform now (.updateOwned id owner update)).2 =
      .ok (if store.owns owner id then 1 else 0) := by
  cases store with
  | memory store =>
      simp only [perform, mapSecond, Store.updateOwned, mapFirst,
        MemoryStore.count_updateOwned, owns, entryAt?, Option.any_map]
      rfl
  | table rows =>
      simp only [perform, mapSecond, Store.updateOwned, mapFirst,
        Table.count_updateOwned, owns, entryAt?, Option.any_map]
      simp [Entry.owner, ← UserId.text_inj]

theorem reply_insert_of_absent {store : Store} {document : Document}
    (absent : store.entryAt? document.id = none) (now : Time.Instant) :
    (store.perform now (.insert document)).2 = .ok document.id := by
  obtain ⟨next, added, _⟩ := insert_of_absent absent
  simp only [perform, added]

theorem reply_deleteOwned (store : Store) (now : Time.Instant)
    (id : DocumentId) (owner : UserId) :
    (store.perform now (.deleteOwned id owner)).2 =
      .ok (if store.owns owner id then 1 else 0) := by
  cases store with
  | memory store =>
      simp only [perform, mapSecond, Store.deleteOwned, mapFirst,
        MemoryStore.count_deleteOwned, owns, entryAt?, Option.any_map]
      rfl
  | table rows =>
      simp only [perform, mapSecond, Store.deleteOwned, mapFirst,
        Table.count_deleteOwned, owns, entryAt?, Option.any_map]
      simp [Entry.owner, ← UserId.text_inj]

/-! ## Calls without effect -/

/-- A call that fails changes nothing. -/
theorem perform_of_error {store : Store} {now : Time.Instant} {call : Call}
    {failure : Failure} (failed : (store.perform now call).2 = .error failure) :
    (store.perform now call).1 = store := by
  cases call with
  | get | list => rfl
  | insert document =>
      simp only [perform] at failed ⊢
      cases added : store.insert document with
      | ok next => simp [added] at failed
      | error cause => rfl
  | updateOwned id owner update => cases failed
  | deleteOwned id owner => cases failed

theorem Table.modifyWhere_of_count {table : Table} {selects : Row → Bool}
    {change : Row → Row} {keepsId : ∀ row, (change row).id = row.id}
    (none : (table.modifyWhere selects change keepsId).2 = 0) :
    (table.modifyWhere selects change keepsId).1 = table := by
  have untouched : table.rows.map (fun row => if selects row then change row else row) =
      table.rows := by
    refine Eq.trans (List.map_congr_left ?_) (List.map_id table.rows)
    intro row member
    have passed := List.countP_eq_zero.1 none row member
    simp [passed]
  unfold modifyWhere
  cases table
  simp only [Table.mk.injEq]
  exact untouched

theorem Table.deleteOwned_of_count {table : Table} {id : DocumentId} {owner : UserId}
    (none : (table.deleteOwned id owner).2 = 0) : (table.deleteOwned id owner).1 = table := by
  have kept : table.rows.filter
      (fun row => !(row.id == id.text && row.owner == owner.text)) = table.rows := by
    rw [List.filter_eq_self]
    intro row member
    have passed := List.countP_eq_zero.1 none row member
    rw [Bool.not_eq_true] at passed
    rw [passed]
    rfl
  unfold deleteOwned
  cases table
  simp only [Table.mk.injEq]
  exact kept

/-- A conditional update of what a user does not own changes nothing. -/
theorem perform_updateOwned_of_foreign {store : Store} {id : DocumentId} {owner : UserId}
    (foreign : store.owns owner id = false) (now : Time.Instant) (update : FieldUpdate) :
    (store.perform now (.updateOwned id owner update)).1 = store := by
  have affected := reply_updateOwned store now id owner update
  rw [foreign] at affected
  have none : (store.updateOwned id owner update now).2 = 0 := Except.ok.inj affected
  cases store with
  | memory records =>
      simp only [perform, mapSecond, Store.updateOwned, mapFirst,
        MemoryStore.updateOwned, MemoryStore.updateIf] at none ⊢
      split at none
      · cases none
      · simp
  | table rows => exact congrArg Store.table (Table.modifyWhere_of_count none)

theorem perform_deleteOwned_of_foreign {store : Store} {id : DocumentId} {owner : UserId}
    (foreign : store.owns owner id = false) (now : Time.Instant) :
    (store.perform now (.deleteOwned id owner)).1 = store := by
  have affected := reply_deleteOwned store now id owner
  rw [foreign] at affected
  have none : (store.deleteOwned id owner).2 = 0 := Except.ok.inj affected
  cases store with
  | memory records =>
      simp only [perform, mapSecond, Store.deleteOwned, mapFirst,
        MemoryStore.deleteOwned] at none ⊢
      split at none
      · cases none
      · simp
  | table rows => exact congrArg Store.table (Table.deleteOwned_of_count none)

end Store

end BlockMail
