import BlockMail.Template.Patch

/-!
# What creations and patches ask for

A creation read as the document it makes, and a patch read as an update: the
fields that they carry, and the payload of blocks, which must be in a form that
can be stored.
-/

set_option autoImplicit false

namespace BlockMail

theorem nonEmptyText?_ne (text : String) : nonEmptyText? text ≠ some "" := by
  unfold nonEmptyText?
  split
  · simp
  · rename_i filled
    simpa using filled

namespace NewDocument

/-- The blocks of a new document: those of the payload, or those of the starter. -/
def chosenBlocks (input : NewDocument) : Except BlocksError (List Block) :=
  match input.blocks with
  | some payload => Blocks.decodeValid payload
  | none => .ok Starter.blocks

/-- The new document with these blocks. -/
def document (input : NewDocument) (id : DocumentId) (owner : UserId) (now : Time.Instant)
    (blocks : List Block) : Document where
  id := id
  owner := owner
  name := input.name.getD Starter.untitledName
  category := input.category.getD Starter.defaultCategory
  subject := input.subject.getD Starter.defaultSubject
  description := input.description.bind nonEmptyText?
  visibility := input.visibility.getD .ownerOnly
  forkedFrom := none
  blocks := blocks
  updatedAt := now

theorem toDocument_eq (input : NewDocument) (id : DocumentId) (owner : UserId)
    (now : Time.Instant) :
    input.toDocument id owner now = input.chosenBlocks.map (input.document id owner now) := by
  unfold toDocument chosenBlocks
  cases input.blocks with
  | none => rfl
  | some payload =>
      dsimp only
      cases Blocks.decodeValid payload <;> rfl

theorem blocks_of_toDocument {input : NewDocument} {id : DocumentId} {owner : UserId}
    {now : Time.Instant} {document : Document}
    (made : input.toDocument id owner now = .ok document) :
    input.chosenBlocks = .ok document.blocks ∧ document.id = id ∧
      document.owner = owner ∧
      document.description = input.description.bind nonEmptyText? := by
  rw [toDocument_eq] at made
  cases chosen : input.chosenBlocks with
  | error cause =>
      rw [chosen] at made
      cases made
  | ok blocks =>
      rw [chosen] at made
      cases made
      exact ⟨rfl, rfl, rfl, rfl⟩

/-- What a new document takes from its request beside its content. -/
theorem eq_of_toDocument {input : NewDocument} {id : DocumentId} {owner : UserId}
    {now : Time.Instant} {document : Document}
    (made : input.toDocument id owner now = .ok document) :
    document = { document with
      id := id, owner := owner, forkedFrom := none, updatedAt := now } := by
  rw [toDocument_eq] at made
  cases chosen : input.chosenBlocks with
  | error cause =>
      rw [chosen] at made
      cases made
  | ok blocks =>
      rw [chosen] at made
      cases made
      rfl

theorem forkedFrom_of_toDocument {input : NewDocument} {id : DocumentId} {owner : UserId}
    {now : Time.Instant} {document : Document}
    (made : input.toDocument id owner now = .ok document) : document.forkedFrom = none := by
  rw [eq_of_toDocument made]

end NewDocument

namespace DocumentPatch

/-- The blocks that a patch carries; `null` carries none. -/
def payload? (patch : DocumentPatch) : Option Json :=
  match patch.blocks with
  | none | some .null => none
  | some payload => some payload

/-- The update of a patch without blocks, or with these blocks. -/
def update (patch : DocumentPatch) (blocks : Option (List Block)) : FieldUpdate :=
  ⟨patch.name, patch.category, patch.subject,
    patch.description.map nonEmptyText?, blocks, patch.visibility⟩

theorem toUpdate_eq (patch : DocumentPatch) :
    patch.toUpdate =
      match patch.payload? with
      | none => .ok (patch.update none)
      | some payload =>
          (Blocks.decodeValid payload).map fun blocks => patch.update (some blocks) := by
  unfold toUpdate payload?
  cases patch.blocks with
  | none => rfl
  | some payload =>
      cases payload with
      | null | bool | number | object => rfl
      | string | array =>
          dsimp only
          cases Blocks.decodeValid _ <;> rfl

/-- The blocks that an accepted patch carries are the decoded payload. -/
theorem blocks_of_toUpdate {patch : DocumentPatch} {update : FieldUpdate}
    (accepted : patch.toUpdate = .ok update) :
    update = patch.update update.blocks ∧
      (patch.payload? = none → update.blocks = none) ∧
      ∀ payload, patch.payload? = some payload →
        ∃ blocks, Blocks.decodeValid payload = .ok blocks ∧
          update.blocks = some blocks := by
  rw [toUpdate_eq] at accepted
  cases carried : patch.payload? with
  | none =>
      rw [carried] at accepted
      cases accepted
      exact ⟨rfl, fun _ => rfl, fun _ impossible => by cases impossible⟩
  | some payload =>
      rw [carried] at accepted
      cases decoded : Blocks.decodeValid payload with
      | error cause => simp [decoded, Except.map] at accepted
      | ok blocks =>
          simp only [decoded, Except.map, Except.ok.injEq] at accepted
          subst accepted
          refine ⟨rfl, ?_, ?_⟩
          · intro impossible
            cases impossible
          · intro other same
            cases same
            exact ⟨blocks, decoded, rfl⟩

theorem payload_of_blocks {patch : DocumentPatch} {update : FieldUpdate}
    (accepted : patch.toUpdate = .ok update) {blocks : List Block}
    (given : update.blocks = some blocks) :
    ∃ payload, patch.payload? = some payload ∧ Blocks.decodeValid payload = .ok blocks := by
  obtain ⟨_, kept, carried⟩ := blocks_of_toUpdate accepted
  cases present : patch.payload? with
  | none =>
      rw [kept present] at given
      cases given
  | some payload =>
      obtain ⟨own, decoded, set⟩ := carried payload present
      rw [set] at given
      cases given
      exact ⟨payload, rfl, decoded⟩

end DocumentPatch

end BlockMail
