import BlockMail.Store.Error
import BlockMail.Template.Patch

/-!
# The memory store

Records by identifier, with their blocks as JSON. A listing is sorted by time,
newest first; records of the same time keep the order of their identifiers.
-/

set_option autoImplicit false

namespace BlockMail

/-- The record with the fields of an update, at a new time. -/
def DocumentRecord.updated (record : DocumentRecord) (update : FieldUpdate)
    (now : Time.Instant) : DocumentRecord :=
  { record with
    name := update.name.getD record.name
    category := update.category.getD record.category
    subject := update.subject.getD record.subject
    description := update.description.getD record.description
    blocks := (update.blocks.map Blocks.toJson).getD record.blocks
    visibility := update.visibility.getD record.visibility
    updatedAt := now }

namespace Store

/-- Records by the text of their identifiers. -/
structure MemoryStore where
  records : ByKey DocumentRecord

namespace MemoryStore

/-- The store without records. -/
def empty : MemoryStore := ⟨.empty⟩

def size (store : MemoryStore) : Nat := store.records.entries.length

def get? (store : MemoryStore) (id : DocumentId) : Option DocumentRecord :=
  store.records.get? id.text

/-- The store with a record as it is, in place of one with its identifier. -/
def put (store : MemoryStore) (record : DocumentRecord) : MemoryStore :=
  ⟨store.records.insert record.id.text record⟩

/-- The summaries of what a user may read, newest first. -/
def list (store : MemoryStore) (requester : UserId) : List Summary :=
  ((store.records.values.filter (·.isVisibleTo requester)).map
    DocumentRecord.summary).mergeSort
    fun first second => first.updatedAt.notBefore second.updatedAt

/-- Adds a document under a new identifier. -/
def insert (store : MemoryStore) (document : Document) :
    Except Failure MemoryStore :=
  if (store.get? document.id).isSome then
    .error (.alreadyExists document.id)
  else .ok (store.put document.toRecord)

/-- Updates the record with an identifier, if it passes a test, and counts the
records that changed. -/
def updateIf (store : MemoryStore) (id : DocumentId)
    (admits : DocumentRecord → Bool) (update : FieldUpdate)
    (now : Time.Instant) : MemoryStore × Nat :=
  match (store.get? id).filter admits with
  | some record =>
      (⟨store.records.insert id.text (record.updated update now)⟩, 1)
  | none => (store, 0)

/-- Updates a record, whoever owns it. -/
def update (store : MemoryStore) (id : DocumentId) (update : FieldUpdate)
    (now : Time.Instant) : MemoryStore × Nat :=
  store.updateIf id (fun _ => true) update now

/-- Updates a record that a user owns. -/
def updateOwned (store : MemoryStore) (id : DocumentId) (owner : UserId)
    (update : FieldUpdate) (now : Time.Instant) : MemoryStore × Nat :=
  store.updateIf id (fun record => record.owner == owner) update now

/-- Removes a record that a user owns. -/
def deleteOwned (store : MemoryStore) (id : DocumentId) (owner : UserId) :
    MemoryStore × Nat :=
  match (store.get? id).filter fun record => record.owner == owner with
  | some _ => (⟨store.records.erase id.text⟩, 1)
  | none => (store, 0)

end MemoryStore

end Store

end BlockMail
