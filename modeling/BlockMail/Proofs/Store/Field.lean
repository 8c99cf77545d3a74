import BlockMail.Proofs.Store.Entry

/-!
# Editable fields

The fields that an update may set, and what a store keeps in each of them. One equation
says what an update leaves in a field; after several updates the last one that set the
field decides.
-/

set_option autoImplicit false

namespace BlockMail.Store

/-- Blocks as a store of a kind keeps them. -/
def Backend.encoded : Backend → List Block → Json
  | .memory, blocks => Blocks.toJson blocks
  | .table, blocks => .string (Row.blocksText blocks)

def Entry.backend : Entry → Backend
  | .structured _ => .memory
  | .text _ => .table

theorem backend_of_entryAt? {store : Store} {id : DocumentId} {entry : Entry}
    (found : store.entryAt? id = some entry) : entry.backend = store.backend := by
  cases entry with
  | structured record => exact (backend_of_structured found).symm
  | text row => exact (backend_of_text found).symm

inductive Field where
  | name
  | category
  | subject
  | description
  | blocks
  | visibility
deriving DecidableEq

namespace Field

/-- What a field holds; a visibility is held by its name. -/
@[reducible] def Value : Field → Type
  | .description => Option String
  | .blocks => Json
  | .name | .category | .subject | .visibility => String

def kept : (field : Field) → Entry → field.Value
  | .name, entry => entry.name
  | .category, entry => entry.category
  | .subject, entry => entry.subject
  | .description, entry => entry.description
  | .blocks, entry => entry.blocks
  | .visibility, entry => entry.visibilityName

/-- The value that an update sets a field to in a store of a kind, if it carries the
field. -/
def set? (backend : Backend) : (field : Field) → FieldUpdate → Option field.Value
  | .name, update => update.name
  | .category, update => update.category
  | .subject, update => update.subject
  | .description, update => update.description
  | .blocks, update => update.blocks.map backend.encoded
  | .visibility, update => update.visibility.map Visibility.name

theorem kept_updated (field : Field) (entry : Entry) (update : FieldUpdate)
    (now : Time.Instant) :
    field.kept (entry.updated update now) =
      (field.set? entry.backend update).getD (field.kept entry) := by
  cases field with
  | name | category | subject | description => cases entry <;> rfl
  | blocks =>
      cases given : update.blocks <;> cases entry <;>
        simp [kept, set?, given, Entry.updated, Entry.blocks, Entry.backend,
          DocumentRecord.updated, Row.updated, Backend.encoded]
  | visibility =>
      cases given : update.visibility <;> cases entry <;>
        simp [kept, set?, given, Entry.updated, Entry.visibilityName,
          DocumentRecord.updated, Row.updated]

/-- The value of a field after updates: that of the last update that set it, or the one
from before them. -/
def after (field : Field) (backend : Backend) (updates : List FieldUpdate)
    (initial : field.Value) : field.Value :=
  ((updates.filterMap (field.set? backend)).getLast?).getD initial

@[simp] theorem after_nil (field : Field) (backend : Backend) (initial : field.Value) :
    field.after backend [] initial = initial := rfl

theorem after_append (field : Field) (backend : Backend) (first second : List FieldUpdate)
    (initial : field.Value) :
    field.after backend (first ++ second) initial =
      field.after backend second (field.after backend first initial) := by
  unfold after
  rw [List.filterMap_append, List.getLast?_append]
  cases (second.filterMap (field.set? backend)).getLast? <;> rfl

theorem after_singleton (field : Field) (backend : Backend) (update : FieldUpdate)
    (initial : field.Value) :
    field.after backend [update] initial = (field.set? backend update).getD initial := by
  unfold after
  cases set : field.set? backend update <;> simp [set]

/-- A field that all the updates that carry it set alike ends with their value. -/
theorem after_of_mem {field : Field} {backend : Backend} {updates : List FieldUpdate}
    {update : FieldUpdate} {value : field.Value} (member : update ∈ updates)
    (sets : field.set? backend update = some value)
    (alone : ∀ other ∈ updates, other ≠ update → field.set? backend other = none)
    (initial : field.Value) : field.after backend updates initial = value := by
  have there : value ∈ updates.filterMap (field.set? backend) :=
    List.mem_filterMap.2 ⟨update, member, sets⟩
  have only : ∀ last ∈ updates.filterMap (field.set? backend), last = value := by
    intro last among
    obtain ⟨other, present, setToo⟩ := List.mem_filterMap.1 among
    by_cases same : other = update
    · rw [same, sets] at setToo
      exact (Option.some.inj setToo).symm
    · rw [alone other present same] at setToo
      cases setToo
  unfold after
  cases ends : (updates.filterMap (field.set? backend)).getLast? with
  | none =>
      rw [List.getLast?_eq_none_iff] at ends
      rw [ends] at there
      cases there
  | some last => exact only last (List.mem_of_getLast? ends)

end Field

end BlockMail.Store
