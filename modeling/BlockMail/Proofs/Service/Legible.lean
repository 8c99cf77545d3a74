import BlockMail.Proofs.Service.Stored
import BlockMail.Proofs.Template.Reread

/-!
# Stored blocks can be read

Blocks get into a store as the starter, with a creation, with a save in place, and with
a fork, which does not check again what it takes over. Whichever way they came, they
decode and pass the check, so no request is ever told that stored blocks do not decode.
For tables this includes that all that is written as text is read back.
-/

set_option autoImplicit false

namespace BlockMail

namespace Store

/-- What a store of a kind gives back of blocks that were written to it. -/
def Backend.readBack : Backend → List Block → List Block
  | .memory, blocks => blocks
  | .table, blocks => blocks.map Block.reread

theorem Entry.Holds.readBack {store : Store} {id : DocumentId} {entry : Entry}
    {blocks : List Block} (holds : entry.Holds blocks)
    (found : store.entryAt? id = some entry)
    (regular : store.backend = .table → Blocks.Regular blocks) :
    Blocks.decode entry.blocks = .ok (store.backend.readBack blocks) := by
  cases entry with
  | structured record =>
      rw [backend_of_structured found]
      change Blocks.decode record.blocks = _
      rw [show record.blocks = Blocks.toJson blocks from holds]
      exact Blocks.decode_toJson blocks
  | text row =>
      have table := backend_of_text found
      rw [table]
      change Blocks.decode (.string row.blocks) = _
      rw [show row.blocks = Row.blocksText blocks from holds]
      exact Blocks.decode_blocksText (regular table)

/-- A record with blocks that decode and can be stored again, and without an empty
description. -/
structure LegibleRecord (record : DocumentRecord) : Prop where
  described : record.description ≠ some ""
  blocks : ∃ blocks, Blocks.decode record.blocks = .ok blocks ∧ Blocks.Storable blocks

def AllLegible (store : Store) : Prop :=
  ∀ id entry, store.entryAt? id = some entry → entry.Bears Blocks.Storable id

theorem LegibleRecord.sound {record : DocumentRecord} (legible : LegibleRecord record) :
    SoundRecord record := by
  obtain ⟨described, blocks, decodes, storable⟩ := legible
  refine ⟨described, ?_⟩
  intro others decoded
  rw [decodes] at decoded
  cases decoded
  exact storable

/-- Blocks that can be stored are read back as blocks that can be stored. -/
theorem Entry.Holds.storable {store : Store} {id : DocumentId} {entry : Entry}
    {blocks : List Block} (holds : entry.Holds blocks)
    (found : store.entryAt? id = some entry) (storable : Blocks.Storable blocks) :
    ∃ read, Blocks.decode entry.blocks = .ok read ∧ Blocks.Storable read := by
  refine ⟨_, holds.readBack found fun _ => Blocks.regular_of_storable storable, ?_⟩
  cases store.backend with
  | memory => exact storable
  | table => exact storable.reread

theorem AllLegible.record {store : Store} (legible : store.AllLegible) {id : DocumentId}
    {record : DocumentRecord} (given : store.get? id = .ok (some record)) :
    LegibleRecord record := by
  obtain ⟨entry, found, read⟩ := get?_eq_some.1 given
  obtain ⟨_, described, blocks, holds, storable⟩ := legible id entry found
  obtain ⟨back, decodes, again⟩ := holds.storable found storable
  have reads := Entry.readsAs read
  rw [← reads.description] at described
  rw [← reads.blocks] at decodes
  exact ⟨described, back, decodes, again⟩

end Store

namespace Service

open Store

/-- Requests that write nothing but sound entries, as long as they read nothing but legible
records. -/
def legible : Protocol Unit where
  permits _ call := call.WritesSound
  delivers _ := True
  expects _ call reply :=
    match call, reply with
    | .get _, .ok (some record) => LegibleRecord record
    | _, _ => True
  advance _ _ _ := ()

def KeepsLegible (program : Program (Except ServiceError Answer)) : Prop :=
  program.Follows legible (fun _ => Readable) ()

theorem blocksOver_legible {record : DocumentRecord} (legible : LegibleRecord record)
    (update : FieldUpdate) (cause : BlocksError) : blocksOver record update ≠ .error cause := by
  obtain ⟨blocks, decodes, _⟩ := legible.blocks
  unfold blocksOver
  cases update.blocks with
  | some own => nofun
  | none => simp [decodes]

theorem program_keepsLegible (service : Service) (requester : UserId) (operation : Operation) :
    KeepsLegible (operation.program service requester) := by
  have free : legible.ReadsFreely () :=
    ⟨fun _ => trivial, fun _ => trivial, fun _ _ => rfl, fun _ _ => rfl, trivial⟩
  cases operation with
  | create input fresh made =>
      apply Request.Follows.bind
      apply follows_create
      · intro _ outcome readable
        cases outcome with
        | ok id => trivial
        | error cause => exact readable.passed
      · intro document accepted
        exact toDocument_sound accepted
  | save id patch fresh made =>
      apply Request.Follows.bind
      apply follows_save
      · intro _ outcome readable
        cases outcome with
        | ok outcome => trivial
        | error cause => exact readable.passed
      · intro record update cause expected failed
        exact absurd failed (blocksOver_legible expected update cause)
      · trivial
      · intro record update _ accepted _
        exact toUpdate_sound accepted
      · -- The one way by which blocks are written that no request has just checked.
        intro record update blocks expected accepted _ _ chosen
        exact forkWith_sound expected.sound accepted chosen id fresh requester made
  | delete id =>
      apply Request.Follows.bind
      apply follows_delete
      · trivial
      · intro _
        trivial
      · intro _ _
        trivial
      · intro _ _
        refine ⟨trivial, ?_⟩
        intro reply
        match reply with
        | .ok (some record) | .ok none | .error failure => trivial
  | fetch | list | categories | preview | send =>
      refine Operation.follows_of_reads trivial free (fun _ readable => readable) ?_
      · intro id record cause expected failed
        obtain ⟨blocks, decodes, _⟩ := expected.blocks
        rw [decodes] at failed
        cases failed

/-! ## Runs -/

namespace Shared

/-- A store whose blocks are legible, at which every request keeps them so. -/
def Legible (shared : Shared) : Prop :=
  shared.Obeys legible Readable AllLegible

theorem legible_initial (backend : Backend) : (initial backend).Legible := by
  refine ⟨?_, ?_⟩
  · intro id entry found
    simp [initial] at found
  · intro position running there
    simp [initial] at there

theorem answer_legible {store : Store} (stored : store.AllLegible) (now : Time.Instant)
    (call : Store.Call) :
    legible.expects () call (store.perform now call).2 := by
  cases call with
  | get id =>
      simp only [legible, Store.perform]
      cases read : store.get? id with
      | error failure => trivial
      | ok found =>
          cases found with
          | none => trivial
          | some record => exact stored.record read
  | list | insert | updateOwned | deleteOwned => trivial

theorem Legible.preserved {service : Service} {before after : Shared} {move : Move}
    (holds : before.Legible) (transition : Transition service before move after) :
    after.Legible := by
  refine Obeys.preserved holds transition
    (fun requester operation _ => program_keepsLegible service requester operation) ?_
  intro now call permit _
  refine ⟨?_, answer_legible holds.store now call⟩
  intro id entry found
  exact bears_perform holds.store now permit (fun _ given => permit.storable given) found

theorem Legible.after_run {service : Service} {shared : Shared} (holds : shared.Legible)
    (moves : List Move) : (shared.run service moves).Legible := by
  induction moves generalizing shared with
  | nil => exact holds
  | cons move rest ih => exact ih (holds.preserved (step_transition service shared move))

/-- Whatever is asked of the service, all that is stored decodes and passes the check,
no description is empty, no request ends because stored blocks do not decode, and none
is about to write blocks that do not pass the check. -/
theorem stored_stays_readable (service : Service) (backend : Backend) (moves : List Move) :
    let shared := reached service backend moves
    (∀ id entry, shared.store.entryAt? id = some entry →
      (∃ blocks, Blocks.decode entry.blocks = .ok blocks ∧
        Blocks.validate blocks = .ok ()) ∧
      entry.description ≠ some "") ∧
    ∀ running ∈ shared.requests,
      (∀ outcome, running.rest = .finish outcome →
        ∀ id cause, outcome ≠ .error (.unreadable id cause)) ∧
      ∀ call next blocks, running.rest = .call call next → call.blocks? = some blocks →
        Blocks.validate blocks = .ok () := by
  intro shared
  have legible : shared.Legible := (legible_initial backend).after_run moves
  refine ⟨?_, ?_⟩
  · intro id entry found
    obtain ⟨_, described, blocks, holds, storable⟩ := legible.store id entry found
    obtain ⟨read, decodes, again⟩ := holds.storable found storable
    exact ⟨⟨read, decodes, (Blocks.validate_iff read).2 again⟩, described⟩
  · intro running member
    obtain ⟨position, there⟩ := List.mem_iff_getElem?.1 member
    have follows := legible.requests position running there
    refine ⟨?_, ?_⟩
    · rintro outcome ended id cause rfl
      rw [ended] at follows
      exact follows
    · intro call next blocks left written
      rw [left] at follows
      exact (Blocks.validate_iff blocks).2 (follows.1.storable written)

/-- A template with a double in it is stored in a table, and a stranger forks it. -/
theorem stored_stays_readable_in_fork :
    let noon : Time.Instant := ⟨⟨2024, 5, 1, by decide⟩, 720, 0, 0, by decide⟩
    let opacity : Json := .number (.double ⟨false, 8112963841471788, -53, by decide⟩)
    let payload : Json := .array [.object
      [("id", .string "b1"), ("type", .string "spacer"),
        ("style", .object [("opacity", opacity)])]]
    let input : NewDocument := ⟨some "Welcome", none, none, some "", some payload,
      some .everyone⟩
    let unsent : Except Mail.TransportError Mail.Delivery := .error (.failed "offline")
    let moves : List Move :=
      [.start ⟨"ada"⟩ (.create input ⟨"d1"⟩ noon), .advance 0 noon unsent,
        .start ⟨"bob"⟩ (.save ⟨"d1"⟩ ⟨none, none, none, none, none, none⟩ ⟨"d2"⟩ noon),
        .advance 1 noon unsent, .advance 1 noon unsent]
    ∃ entry, (reached ⟨"", .empty⟩ .table moves).store.entryAt? ⟨"d2"⟩ = some entry ∧
      (∃ blocks, Blocks.decode entry.blocks = .ok blocks ∧ Blocks.validate blocks = .ok ()) ∧
      entry.description ≠ some "" := by
  intro noon opacity payload input unsent moves
  obtain ⟨entry, found⟩ := Option.isSome_iff_exists.1
    (show ((reached ⟨"", .empty⟩ .table moves).store.entryAt? ⟨"d2"⟩).isSome = true by
      decide +kernel)
  exact ⟨entry, found,
    (stored_stays_readable ⟨"", .empty⟩ .table moves).1 ⟨"d2"⟩ entry found⟩

end Shared

end Service

end BlockMail
