import BlockMail.Proofs.InPlace
import BlockMail.Proofs.Editor.Mutation

/-!
# Mutations in place

A document can be worked on in place: one write follows another, and a step that fails
does not take back what was written before it. A mutation that is carried out in this
way comes to what its effect is all at once, and it leaves nothing behind when it is
refused. What the check of a mutation lets through does not fail later.
-/

set_option autoImplicit false

namespace BlockMail

namespace Mutation

open InPlace

/-- Steps that work on a document. -/
abbrev Work := InPlace Document MutationError

def rewriteBlocks (change : List Block → List Block) : Work Unit :=
  modify fun document => document.withBlocks (change document.blocks)

/-- Takes the block at a position out of the document. -/
def takeOut (id : String) (index : Nat) : Work Block := do
  match (← get).blocks[index]? with
  | some block =>
      rewriteBlocks fun blocks => blocks.eraseIdx index
      return block
  | none => throw (.blockNotFound id)

/-- Carries a mutation out, one read or write after the other. -/
def workOut (freshId : String) : Mutation → Work (Option String)
  | .addBlock kind index => do
      let block := Starter.paletteBlock kind freshId
      rewriteBlocks fun blocks => Blocks.insertAt blocks index block
      return some block.id
  | .insertBlock block index => do
      rewriteBlocks fun blocks => Blocks.insertAt blocks index block
      return some block.id
  | .removeBlock blockId => do
      let index ← consult fun document => document.position blockId
      let _ ← takeOut blockId index
      return none
  | .moveBlock blockId target => do
      let index ← consult fun document => document.position blockId
      let block ← takeOut blockId index
      -- The list is one block shorter by now, and the target is a position in it.
      rewriteBlocks fun blocks => Blocks.insertAt blocks (some target) block
      return none
  | .setBlockData blockId key value => do
      let (index, block) ← consult fun document => document.located blockId
      let edited ← consult fun _ => block.edited key value
      rewriteBlocks fun blocks => blocks.set index edited
      return none
  | .setBlockStyle blockId key value => do
      let (index, block) ← consult fun document => document.located blockId
      rewriteBlocks fun blocks => blocks.set index (block.setStyle key value)
      return none
  | .setName value => do
      modify fun document => { document with name := value }
      return none
  | .setCategory value => do
      modify fun document => { document with category := value }
      return none
  | .setSubject value => do
      modify fun document => { document with subject := value }
      return none
  | .setDescription value => do
      modify fun document =>
        { document with description := value.filter fun text => !text.isEmpty }
      return none
  | .setVisibility value => do
      modify fun document => { document with visibility := value }
      return none

/-- Checks a mutation and carries it out. -/
def work (mutation : Mutation) (freshId : String) : Work (Option String) := do
  consult mutation.validate
  mutation.workOut freshId

/-! ## In place and all at once -/

variable {document : Document}

@[simp] theorem on_rewriteBlocks (change : List Block → List Block) (document : Document) :
    (rewriteBlocks change).on document =
      (.ok (), document.withBlocks (change document.blocks)) := rfl

theorem on_takeOut {index : Nat} {block : Block} (there : document.blocks[index]? = some block)
    (id : String) :
    (takeOut id index).on document =
      (.ok block, document.withBlocks (document.blocks.eraseIdx index)) := by
  unfold takeOut
  rw [on_bind, on_get]
  simp only [there]
  rw [on_bind, on_rewriteBlocks]
  rfl

/-- What is worked out step by step is what is performed. Every look-up that can fail comes
before the first write. -/
theorem on_workOut (mutation : Mutation) (freshId : String) (document : Document) :
    (mutation.workOut freshId).on document =
      atOnce document (mutation.perform freshId document) := by
  cases mutation with
  | addBlock kind index => rfl
  | insertBlock block index => rfl
  | removeBlock blockId =>
      simp only [workOut, perform]
      rw [on_bind, on_consult]
      cases placed : document.position blockId with
      | error cause => rfl
      | ok index =>
          obtain ⟨block, there, _⟩ := Document.position_ok placed
          dsimp only
          rw [on_bind, on_takeOut there]
          rfl
  | moveBlock blockId target =>
      simp only [workOut, perform]
      rw [on_bind, on_consult]
      cases placed : document.position blockId with
      | error cause => rfl
      | ok index =>
          obtain ⟨block, there, _⟩ := Document.position_ok placed
          have moved : Blocks.moveTo document.blocks index target =
              Blocks.insertAt (document.blocks.eraseIdx index) (some target) block := by
            simp only [Blocks.moveTo, there]
          dsimp only
          rw [on_bind, on_takeOut there]
          simp only [bind, Except.bind, moved]
          rfl
  | setBlockData blockId key value =>
      simp only [workOut, perform]
      rw [on_bind, on_consult]
      cases document.located blockId with
      | error cause => rfl
      | ok found =>
          obtain ⟨index, block⟩ := found
          dsimp only
          rw [on_bind, on_consult]
          simp only [bind, Except.bind]
          cases block.edited key value <;> rfl
  | setBlockStyle blockId key value =>
      simp only [workOut, perform]
      rw [on_bind, on_consult]
      cases document.located blockId <;> rfl
  | setName | setCategory | setSubject | setDescription | setVisibility => rfl

theorem on_work (mutation : Mutation) (freshId : String) (document : Document) :
    (mutation.work freshId).on document =
      atOnce document (mutation.apply freshId document) := by
  unfold work apply
  rw [on_bind, on_consult]
  cases mutation.validate document with
  | error cause => rfl
  | ok =>
      dsimp only
      rw [on_workOut]
      rfl

/-! ## What the check lets through -/

theorem located_of_position {id : String} {index : Nat}
    (placed : document.position id = .ok index) :
    ∃ block, document.located id = .ok (index, block) := by
  obtain ⟨block, there, _⟩ := Document.position_ok placed
  refine ⟨block, ?_⟩
  simp only [Document.located, placed, bind, Except.bind, there]
  rfl

/-- What is let through is performed: the look-ups that are made again do not fail. -/
theorem performed_of_valid {mutation : Mutation}
    (valid : mutation.validate document = .ok ()) (freshId : String) :
    ∃ result, mutation.perform freshId document = .ok result := by
  cases mutation with
  | removeBlock blockId | moveBlock blockId target =>
      obtain ⟨index, placed, _⟩ := exists_of_map valid
      simp only [perform, placed]
      exact ⟨_, rfl⟩
  | setBlockStyle blockId key value =>
      obtain ⟨index, placed, _⟩ := exists_of_map valid
      obtain ⟨block, found⟩ := located_of_position placed
      simp only [perform, found]
      exact ⟨_, rfl⟩
  | setBlockData blockId key value =>
      obtain ⟨⟨index, block⟩, found, valid⟩ := exists_of_bind valid
      obtain ⟨edited, succeeded, _⟩ := exists_of_bind valid
      simp only [perform, found, bind, Except.bind, succeeded]
      exact ⟨_, rfl⟩
  | addBlock | insertBlock | setName | setCategory | setSubject | setDescription
  | setVisibility => exact ⟨_, rfl⟩

/-- A mutation succeeds when its check does, and is refused for the same reason. -/
theorem apply_map_eq_validate (mutation : Mutation) (freshId : String) (document : Document) :
    (mutation.apply freshId document).map (fun _ => ()) = mutation.validate document := by
  unfold apply
  cases valid : mutation.validate document with
  | error cause => rfl
  | ok =>
      obtain ⟨result, performed⟩ := performed_of_valid valid freshId
      simp only [bind, Except.bind, performed]
      rfl

/-! ## Mutations and their check -/

theorem findBlock?_isSome {id : String} :
    (document.findBlock? id).isSome = true ↔ ∃ other ∈ document.blocks, other.id = id := by
  simp [Document.findBlock?]

/-- The verdict on an insertion is the first of three complaints that has a reason. -/
theorem validate_insertBlock (block : Block) (index : Option Nat) (document : Document) :
    (insertBlock block index).validate document =
      if block.id = "" then .error .emptyBlockId
      else if ∃ other ∈ document.blocks, other.id = block.id then
        .error (.duplicateBlockId block.id)
      else if block.kind? = none then .error (.unknownType block.id block.content.typeName)
      else .ok () := by
  simp only [validate, findBlock?_isSome, String.isEmpty_iff, Option.isNone_iff_eq_none]

/-- A mutation succeeds on a document exactly when its check does, and otherwise is refused
for the same reason. In place, a refused one leaves the document as it was. An insertion is
refused for an empty identifier, else for one that a block has, else for an unknown type. -/
theorem checked_then_carried_out (mutation : Mutation) (freshId : String)
    (document : Document) :
    (mutation.validate document = .ok () ↔
        ∃ after created, mutation.apply freshId document = .ok (after, created)) ∧
      (∀ cause, mutation.validate document = .error cause ↔
        mutation.apply freshId document = .error cause) ∧
      (mutation.work freshId).on document =
        (match mutation.apply freshId document with
        | .ok (after, created) => (.ok created, after)
        | .error cause => (.error cause, document)) ∧
      ∀ block index,
        let verdict := (insertBlock block index).validate document
        let present := ∃ other ∈ document.blocks, other.id = block.id
        (verdict = .error .emptyBlockId ↔ block.id = "") ∧
          (verdict = .error (.duplicateBlockId block.id) ↔ block.id ≠ "" ∧ present) ∧
          (verdict = .error (.unknownType block.id block.content.typeName) ↔
            block.id ≠ "" ∧ ¬present ∧ block.kind? = none) ∧
          (verdict = .ok () ↔ block.id ≠ "" ∧ ¬present ∧ block.kind? ≠ none) := by
  have same := apply_map_eq_validate mutation freshId document
  refine ⟨?_, ?_, ?_, ?_⟩
  · rw [← same]
    rcases mutation.apply freshId document with cause | ⟨after, created⟩ <;> simp [Except.map]
  · intro cause
    rw [← same]
    cases mutation.apply freshId document <;> simp [Except.map]
  · rw [on_work]
    cases mutation.apply freshId document <;> rfl
  · intro block index verdict present
    have decided : verdict = _ := validate_insertBlock block index document
    rw [decided]
    by_cases empty : block.id = ""
    · simp [empty]
    · by_cases taken : ∃ other ∈ document.blocks, other.id = block.id
      · simp [empty, taken, present]
      · by_cases unknown : block.kind? = none <;> simp [empty, taken, unknown, present]

end Mutation

end BlockMail
