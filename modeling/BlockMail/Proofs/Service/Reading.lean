import BlockMail.Proofs.Service.Save
import BlockMail.Proofs.Service.Stored
import BlockMail.Proofs.Store.Readable

/-!
# What is read

The document that a look-up gives a user, as a function of the store alone, and the
entries that read as a given document.
-/

set_option autoImplicit false

namespace BlockMail

namespace Store

/-- An entry that says what a document says, its time apart. -/
structure Entry.Shows (entry : Entry) (document : Document) : Prop where
  id : entry.id = document.id
  owner : entry.owner = document.owner
  name : entry.name = document.name
  category : entry.category = document.category
  subject : entry.subject = document.subject
  description : entry.description = document.description
  visibility : entry.visibilityName = document.visibility.name
  forkedFrom : entry.forkedFrom = document.forkedFrom
  blocks : entry.Holds document.blocks

/-- What was written in a year of four digits is read back. -/
theorem Entry.damage?_of_dated {store : Store} {id : DocumentId} {entry : Entry}
    (found : store.entryAt? id = some entry) {visibility : Visibility}
    (named : entry.visibilityName = visibility.name) {now : Time.Instant}
    (dated : entry.Dated now) (years : store.backend = .table → now.FourDigits) :
    entry.damage? = none := by
  cases entry with
  | structured record => rfl
  | text row =>
      have filled : row.Filled visibility now := ⟨named, dated⟩
      exact filled.damage?_eq.trans (if_pos (years (backend_of_text found)))

theorem Entry.Shows.ofRecord {store : Store} {id : DocumentId} {entry : Entry}
    {document : Document} {record : DocumentRecord} (shows : entry.Shows document)
    (found : store.entryAt? id = some entry) (read : entry.read = .ok record)
    (reparses : store.backend = .table → Blocks.Reparses document.blocks) :
    Document.ofRecord record = .ok { document with updatedAt := record.updatedAt } := by
  have reads := readsAs read
  have decodes := shows.blocks.decodes found reparses
  have visibility : record.visibility = document.visibility :=
    Visibility.name_inj (reads.visibility.trans shows.visibility)
  unfold Document.ofRecord
  rw [reads.blocks, decodes, reads.id, reads.owner, reads.name, reads.category,
    reads.subject, reads.description, reads.forkedFrom, visibility, shows.id,
    shows.owner, shows.name, shows.category, shows.subject, shows.description,
    shows.forkedFrom]
  rfl

end Store

namespace Service

/-- What a user is given when fetching the document with an identifier. -/
def fetched (store : Store) (id : DocumentId) (requester : UserId) :
    Except ServiceError Document :=
  match lookedUp id (store.get? id) with
  | .error cause => .error cause
  | .ok record =>
      if record.isVisibleTo requester then
        match Document.ofRecord record with
        | .ok document => .ok document
        | .error cause => .error (.unreadable record.id cause)
      else .error (.forbidden id)

/-- A document that is not read back is given to nobody. -/
theorem fetched_of_damaged {store : Store} {id : DocumentId} {failure : Store.Failure}
    (damaged : store.damage? id = some failure) (requester : UserId) :
    fetched store id requester = .error (.store failure) := by
  rw [fetched, Store.get?_eq_error.2 damaged]
  rfl

theorem run_fetch (store : Store) (transport : Mail.MemoryTransport)
    (now : Time.Instant) (id : DocumentId) (requester : UserId) :
    (World.ofStore store transport).run now (fetch id requester).run =
      (.ofStore store transport, fetched store id requester) := by
  unfold fetch visible fetched
  rw [World.run_bind, World.run_bind, run_stored]
  cases lookedUp id (store.get? id) with
  | error cause => rfl
  | ok record =>
      by_cases seen : record.isVisibleTo requester = true
      · simp only [seen, if_true, World.run_pure]
        cases Document.ofRecord record <;> rfl
      · simp only [seen]
        rfl

theorem run_preview (service : Service) (store : Store)
    (transport : Mail.MemoryTransport) (now : Time.Instant) (id : DocumentId)
    (requester : UserId) (context : Option Context) :
    (World.ofStore store transport).run now
        (service.preview id requester context).run =
      (.ofStore store transport, (fetched store id requester).map fun document =>
        Html.page document.blocks (service.merged context) .default) := by
  unfold preview
  rw [World.run_bind, run_fetch]
  cases fetched store id requester <;> rfl

/-- A document is given for a readable entry that the user may see. -/
theorem fetched_eq_ok {store : Store} {id : DocumentId} {requester : UserId}
    {document : Document} :
    fetched store id requester = .ok document ↔
      ∃ entry record, store.entryAt? id = some entry ∧ entry.read = .ok record ∧
        record.isVisibleTo requester = true ∧ Document.ofRecord record = .ok document := by
  constructor
  · intro given
    unfold fetched at given
    rw [Store.get?_eq] at given
    cases found : store.entryAt? id with
    | none => simp [found, lookedUp] at given
    | some entry =>
        cases read : entry.read with
        | error failure => simp [found, read, Except.map, lookedUp] at given
        | ok record =>
            simp only [found, read, Except.map, lookedUp] at given
            split at given
            · rename_i seen
              cases decoded : Document.ofRecord record with
              | error cause => simp [decoded] at given
              | ok result =>
                  simp only [decoded, Except.ok.injEq] at given
                  exact ⟨entry, record, rfl, read, seen, given ▸ decoded⟩
            · cases given
  · rintro ⟨entry, record, found, read, seen, decoded⟩
    simp only [fetched, Store.get?_eq, found, read, Except.map, lookedUp, seen,
      if_true, decoded]

theorem damage?_of_fetched {store : Store} {id : DocumentId} {requester : UserId}
    {document : Document} (given : fetched store id requester = .ok document) :
    store.damage? id = none := by
  obtain ⟨entry, record, found, read, _⟩ := fetched_eq_ok.1 given
  exact Store.damage?_of_read found read

end Service

end BlockMail
