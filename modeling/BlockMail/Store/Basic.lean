import BlockMail.Store.Memory
import BlockMail.Store.Table

/-!
# Stores

A store of either kind, and the calls that are made to it. A call is atomic: it
reads or changes the store once. A failed call changes nothing.
-/

set_option autoImplicit false

namespace BlockMail

/-- A memory store or a table. -/
inductive Store where
  | memory (records : Store.MemoryStore)
  | table (rows : Store.Table)

namespace Store

inductive Call where
  | get (id : DocumentId)
  | list (requester : UserId)
  | insert (document : Document)
  /-- Updates a document if the user owns it. -/
  | updateOwned (id : DocumentId) (owner : UserId) (update : FieldUpdate)
  /-- Deletes a document if the user owns it. -/
  | deleteOwned (id : DocumentId) (owner : UserId)

/-- What a call answers; changes answer the number of affected documents. -/
@[reducible] def Call.Reply : Call → Type
  | .get _ => Option DocumentRecord
  | .list _ => List Summary
  | .insert _ => DocumentId
  | .updateOwned _ _ _ => Nat
  | .deleteOwned _ _ => Nat

/-- A pair with its first part changed. -/
def mapFirst {First Changed Second : Type} (change : First → Changed)
    (pair : First × Second) : Changed × Second :=
  (change pair.1, pair.2)

/-- A pair with its second part changed. -/
def mapSecond {First Second Changed : Type} (change : Second → Changed)
    (pair : First × Second) : First × Changed :=
  (pair.1, change pair.2)

def get? : Store → DocumentId → Except Failure (Option DocumentRecord)
  | .memory store, id => .ok (store.get? id)
  | .table rows, id => rows.get? id

/-- The summaries of what a user may read, newest first. -/
def list : Store → UserId → Except Failure (List Summary)
  | .memory store, requester => .ok (store.list requester)
  | .table rows, requester => rows.list requester

/-- Adds a document under a new identifier. -/
def insert : Store → Document → Except Failure Store
  | .memory store, document => (store.insert document).map .memory
  | .table rows, document => (rows.insert document).map .table

/-- Updates a document, whoever owns it. -/
def update (store : Store) (id : DocumentId) (update : FieldUpdate)
    (now : Time.Instant) : Store × Nat :=
  match store with
  | .memory store => mapFirst .memory (store.update id update now)
  | .table rows => mapFirst .table (rows.update id update now)

/-- Updates a document that a user owns. -/
def updateOwned (store : Store) (id : DocumentId) (owner : UserId)
    (update : FieldUpdate) (now : Time.Instant) : Store × Nat :=
  match store with
  | .memory store => mapFirst .memory (store.updateOwned id owner update now)
  | .table rows => mapFirst .table (rows.updateOwned id owner update now)

/-- Removes a document that a user owns. -/
def deleteOwned (store : Store) (id : DocumentId) (owner : UserId) :
    Store × Nat :=
  match store with
  | .memory store => mapFirst .memory (store.deleteOwned id owner)
  | .table rows => mapFirst .table (rows.deleteOwned id owner)

/-- The store after a call and its answer, the clock showing `now`. -/
def perform (store : Store) (now : Time.Instant) :
    (call : Call) → Store × Except Failure call.Reply
  | .get id => (store, store.get? id)
  | .list requester => (store, store.list requester)
  | .insert document =>
      match store.insert document with
      | .ok next => (next, .ok document.id)
      | .error failure => (store, .error failure)
  | .updateOwned id owner update =>
      mapSecond Except.ok (store.updateOwned id owner update now)
  | .deleteOwned id owner => mapSecond Except.ok (store.deleteOwned id owner)

/-! ## Records from elsewhere -/

/-- Why a record cannot be taken over. -/
inductive RecordFailure where
  | blocks (cause : BlocksError)
  | store (failure : Failure)
deriving DecidableEq

/-- Takes a record over. The memory store keeps it as it is, in place of one
with its identifier. The table takes its document; text in place of blocks goes
into the column as it is. -/
def takeRecord (store : Store) (record : DocumentRecord) :
    Except RecordFailure Store :=
  match store, record.blocks with
  | .memory store, _ => .ok (.memory (store.put record))
  | .table rows, .string text =>
      match Document.ofRecord { record with blocks := .null } with
      | .error cause => .error (.blocks cause)
      | .ok document =>
          match rows.insert document with
          | .error failure => .error (.store failure)
          | .ok rows => .ok (.table (rows.overwriteBlocks record.id text).1)
  | .table rows, _ =>
      match Document.ofRecord record with
      | .error cause => .error (.blocks cause)
      | .ok document =>
          match rows.insert document with
          | .error failure => .error (.store failure)
          | .ok rows => .ok (.table rows)

end Store

end BlockMail
