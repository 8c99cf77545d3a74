import BlockMail.Json.Writer
import BlockMail.Store.Error
import BlockMail.Template.Patch

/-!
# The table store

One row a document, all columns text: the blocks as compact JSON, the time with
six decimal places, so that the order of texts is the order of times. Text is
only read back when a row is selected, and a row with a damaged column is a
failure of that selection alone.
-/

set_option autoImplicit false

namespace BlockMail.Store

structure Row where
  id : String
  owner : String
  name : String
  category : String
  subject : String
  description : Option String
  visibility : String
  forkedFrom : Option String
  blocks : String
  updatedAt : String
deriving DecidableEq

namespace Row

/-- Blocks as they stand in their column. -/
def blocksText (blocks : List Block) : String := (Blocks.toJson blocks).compact

def ofDocument (document : Document) : Row :=
  { id := document.id.text
    owner := document.owner.text
    name := document.name
    category := document.category
    subject := document.subject
    description := document.description
    visibility := document.visibility.name
    forkedFrom := document.forkedFrom.map DocumentId.text
    blocks := blocksText document.blocks
    updatedAt := document.updatedAt.microsText }

def readVisibility (row : Row) (column : Nat) : Except Failure Visibility :=
  match Visibility.ofName? row.visibility with
  | some visibility => .ok visibility
  | none => .error (.unreadable column (.visibility row.visibility))

def readTime (row : Row) (column : Nat) : Except Failure Time.Instant :=
  match Time.readExact row.updatedAt with
  | .ok instant => .ok instant
  | .error fault => .error (.unreadable column (.timestamp fault))

/-- The record of a row. The blocks stay text. The visibility is the seventh of
the ten columns and the time the last. -/
def record (row : Row) : Except Failure DocumentRecord := do
  let visibility ← row.readVisibility 6
  let updatedAt ← row.readTime 9
  return {
    id := ⟨row.id⟩
    owner := ⟨row.owner⟩
    name := row.name
    category := row.category
    subject := row.subject
    description := row.description
    visibility := visibility
    forkedFrom := row.forkedFrom.map DocumentId.mk
    blocks := .string row.blocks
    updatedAt := updatedAt }

/-- The summary of a row. A listing selects eight columns, of which the
visibility is the sixth and the time the last. -/
def summary (row : Row) : Except Failure Summary := do
  let visibility ← row.readVisibility 5
  let updatedAt ← row.readTime 7
  return {
    id := ⟨row.id⟩
    owner := ⟨row.owner⟩
    name := row.name
    category := row.category
    subject := row.subject
    visibility := visibility
    forkedFrom := row.forkedFrom.map DocumentId.mk
    updatedAt := updatedAt }

/-- Whether a row is in the listing of a user, by the text of its columns. -/
def isListedFor (row : Row) (requester : UserId) : Bool :=
  row.visibility == Visibility.everyone.name || row.owner == requester.text

def updated (row : Row) (update : FieldUpdate) (now : Time.Instant) : Row :=
  { row with
    name := update.name.getD row.name
    category := update.category.getD row.category
    subject := update.subject.getD row.subject
    description := update.description.getD row.description
    blocks := (update.blocks.map blocksText).getD row.blocks
    visibility := (update.visibility.map Visibility.name).getD row.visibility
    updatedAt := now.microsText }

end Row

/-- Rows in order of insertion. No two rows have the same identifier. -/
structure Table where
  rows : List Row
  distinct : (rows.map Row.id).Nodup

namespace Table

def empty : Table := ⟨[], by simp⟩

def row? (table : Table) (id : DocumentId) : Option Row :=
  table.rows.find? fun row => row.id == id.text

/-- The record with an identifier. -/
def get? (table : Table) (id : DocumentId) :
    Except Failure (Option DocumentRecord) :=
  match table.row? id with
  | some row => row.record.map some
  | none => .ok none

/-- The summaries of what a user may read, newest first by the text of the time;
of two rows with the same time the later inserted comes first. -/
def list (table : Table) (requester : UserId) :
    Except Failure (List Summary) :=
  ((table.rows.filter (·.isListedFor requester)).reverse.mergeSort
    fun first second => decide (second.updatedAt ≤ first.updatedAt)).mapM
    Row.summary

/-- Adds the row of a document under a new identifier. -/
def insert (table : Table) (document : Document) : Except Failure Table :=
  if present : document.id.text ∈ table.rows.map Row.id then .error .notUnique
  else
    .ok
      { rows := table.rows ++ [Row.ofDocument document]
        distinct := by
          rw [List.map_append, List.nodup_append]
          refine ⟨table.distinct, by simp, fun left member right single equal =>
            present ?_⟩
          simp only [List.map_cons, List.map_nil, List.mem_singleton] at single
          rw [equal, single] at member
          exact member }

/-- Changes the rows that pass a test, keeping their identifiers, and counts
them. -/
def modifyWhere (table : Table) (selects : Row → Bool) (change : Row → Row)
    (keepsId : ∀ row, (change row).id = row.id) : Table × Nat :=
  ({ rows := table.rows.map fun row => if selects row then change row else row
     distinct := by
      have same :
          ((table.rows.map fun row =>
            if selects row then change row else row).map Row.id) =
            table.rows.map Row.id := by
        rw [List.map_map]
        apply List.map_congr_left
        intro row _
        simp only [Function.comp]
        split
        · exact keepsId row
        · rfl
      rw [same]
      exact table.distinct },
    table.rows.countP selects)

/-- Updates a row, whoever owns it. -/
def update (table : Table) (id : DocumentId) (update : FieldUpdate)
    (now : Time.Instant) : Table × Nat :=
  table.modifyWhere (fun row => row.id == id.text)
    (fun row => row.updated update now) fun _ => rfl

/-- Updates a row that a user owns. -/
def updateOwned (table : Table) (id : DocumentId) (owner : UserId)
    (update : FieldUpdate) (now : Time.Instant) : Table × Nat :=
  table.modifyWhere (fun row => row.id == id.text && row.owner == owner.text)
    (fun row => row.updated update now) fun _ => rfl

/-- Removes a row that a user owns. -/
def deleteOwned (table : Table) (id : DocumentId) (owner : UserId) :
    Table × Nat :=
  let selects (row : Row) : Bool := row.id == id.text && row.owner == owner.text
  ({ rows := table.rows.filter fun row => !selects row
     distinct := (List.filter_sublist.map Row.id).nodup table.distinct },
    table.rows.countP selects)

def overwriteBlocks (table : Table) (id : DocumentId) (text : String) :
    Table × Nat :=
  table.modifyWhere (fun row => row.id == id.text)
    (fun row => { row with blocks := text }) fun _ => rfl

def overwriteVisibility (table : Table) (id : DocumentId) (text : String) :
    Table × Nat :=
  table.modifyWhere (fun row => row.id == id.text)
    (fun row => { row with visibility := text }) fun _ => rfl

def overwriteTime (table : Table) (id : DocumentId) (text : String) :
    Table × Nat :=
  table.modifyWhere (fun row => row.id == id.text)
    (fun row => { row with updatedAt := text }) fun _ => rfl

end Table

end BlockMail.Store
