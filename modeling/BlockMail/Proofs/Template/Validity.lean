import Mathlib.Data.List.Permutation
import BlockMail.Editor.Mutation
import BlockMail.Template.Patch

/-!
# Blocks that can be stored

What the check before storing asks of blocks, as a property of the list that does
not mention the order of the checks, and the edits of a list that keep it.
-/

set_option autoImplicit false

namespace BlockMail

/-- Whether a block can stand in a stored template. -/
structure Block.Storable (block : Block) : Prop where
  named : block.id ≠ ""
  known : block.kind? ≠ none

namespace Blocks

/-- Blocks of known types under distinct identifiers that are not empty. -/
structure Storable (blocks : List Block) : Prop where
  each : ∀ block ∈ blocks, block.Storable
  distinct : (blocks.map Block.id).Nodup

theorem storable_nil : Storable [] := ⟨by simp, by simp⟩

theorem storable_cons {block : Block} {rest : List Block} :
    Storable (block :: rest) ↔
      block.Storable ∧ (∀ other ∈ rest, other.id ≠ block.id) ∧ Storable rest := by
  constructor
  · intro storable
    obtain ⟨fresh, distinct⟩ := List.nodup_cons.1 storable.distinct
    refine ⟨storable.each block (by simp), ?_, ⟨?_, distinct⟩⟩
    · intro other member same
      exact fresh (List.mem_map.2 ⟨other, member, same⟩)
    · intro other member
      exact storable.each other (List.mem_cons_of_mem _ member)
  · rintro ⟨here, fresh, tail⟩
    refine ⟨?_, List.nodup_cons.2 ⟨?_, tail.distinct⟩⟩
    · intro other member
      rcases List.mem_cons.1 member with rfl | inRest
      · exact here
      · exact tail.each other inRest
    · intro member
      obtain ⟨other, inRest, same⟩ := List.mem_map.1 member
      exact fresh other inRest same

theorem validateFrom_cons {block : Block} {rest : List Block} {index : Nat}
    {seen : List String} :
    validateFrom index seen (block :: rest) = .ok () ↔
      block.Storable ∧ block.id ∉ seen ∧
        validateFrom (index + 1) (block.id :: seen) rest = .ok () := by
  simp only [validateFrom]
  by_cases named : block.id = ""
  · have unstorable : ¬block.Storable := fun storable => storable.named named
    simp [named, unstorable]
  · by_cases fresh : block.id ∈ seen
    · simp [named, fresh]
    · have storable : block.Storable ↔ block.kind? ≠ none :=
        ⟨fun storable => storable.known, fun known => ⟨named, known⟩⟩
      rw [storable]
      cases shown : block.content <;> simp [named, fresh, Block.kind?, Content.kind?, shown]

theorem validateFrom_iff (blocks : List Block) (index : Nat) (seen : List String) :
    validateFrom index seen blocks = .ok () ↔
      Storable blocks ∧ ∀ block ∈ blocks, block.id ∉ seen := by
  induction blocks generalizing index seen with
  | nil => simp [validateFrom, storable_nil]
  | cons block rest ih =>
      rw [validateFrom_cons, ih, storable_cons, List.forall_mem_cons]
      simp only [List.mem_cons, not_or, forall_and]
      constructor
      · rintro ⟨here, fresh, tail, others, unseen⟩
        exact ⟨⟨here, others, tail⟩, fresh, unseen⟩
      · rintro ⟨⟨here, others, tail⟩, fresh, unseen⟩
        exact ⟨here, fresh, tail, others, unseen⟩

theorem validate_iff (blocks : List Block) :
    validate blocks = .ok () ↔ Storable blocks := by
  simp [validate, validateFrom_iff]

/-! ## Edits of a list -/

theorem Storable.of_perm {blocks others : List Block} (storable : Storable blocks)
    (same : List.Perm others blocks) : Storable others :=
  ⟨fun block member => storable.each block (same.mem_iff.1 member),
    (same.map Block.id).nodup_iff.2 storable.distinct⟩

theorem Storable.of_sublist {blocks kept : List Block} (storable : Storable blocks)
    (sub : kept.Sublist blocks) : Storable kept :=
  ⟨fun block member => storable.each block (sub.subset member),
    (sub.map Block.id).nodup storable.distinct⟩

theorem insertAt_perm (blocks : List Block) (index : Option Nat) (block : Block) :
    List.Perm (insertAt blocks index block) (block :: blocks) :=
  List.perm_insertIdx block blocks (Nat.min_le_right _ _)

theorem moveTo_perm (blocks : List Block) (source target : Nat) :
    List.Perm (moveTo blocks source target) blocks := by
  unfold moveTo
  split
  · rename_i block found
    obtain ⟨inside, rfl⟩ := List.getElem?_eq_some_iff.1 found
    exact (insertAt_perm _ _ _).trans (List.getElem_cons_eraseIdx_perm inside)
  · exact .refl blocks

theorem ids_set {blocks : List Block} {index : Nat} {old : Block}
    (found : blocks[index]? = some old) (new : Block) (named : new.id = old.id) :
    (blocks.set index new).map Block.id = blocks.map Block.id := by
  obtain ⟨inside, _⟩ := List.getElem?_eq_some_iff.1 found
  apply List.ext_getElem?
  intro position
  rw [List.getElem?_map, List.getElem?_map, List.getElem?_set]
  split
  · rename_i same
    rw [← same, found]
    simp [named]
  · rfl

/-- A block may be replaced by one that can be stored under the same identifier. -/
theorem Storable.set {blocks : List Block} (storable : Storable blocks) {index : Nat}
    {old new : Block} (found : blocks[index]? = some old) (named : new.id = old.id)
    (known : new.kind? ≠ none) : Storable (blocks.set index new) := by
  have oldStorable := storable.each old (List.mem_of_getElem? found)
  refine ⟨?_, ?_⟩
  · intro block member
    rcases List.mem_or_eq_of_mem_set member with kept | rfl
    · exact storable.each block kept
    · exact ⟨named ▸ oldStorable.named, known⟩
  · rw [ids_set found new named]
    exact storable.distinct

/-- Taking a block out takes its identifier out, and no other. -/
theorem mem_ids_eraseIdx {blocks : List Block} (distinct : (blocks.map Block.id).Nodup)
    {index : Nat} {block : Block} (found : blocks[index]? = some block) (id : String) :
    id ∈ (blocks.eraseIdx index).map Block.id ↔ id ∈ blocks.map Block.id ∧ id ≠ block.id := by
  obtain ⟨inside, rfl⟩ := List.getElem?_eq_some_iff.1 found
  have parted := (List.getElem_cons_eraseIdx_perm inside).map Block.id
  have apart := parted.nodup_iff.2 distinct
  rw [List.map_cons, List.nodup_cons] at apart
  rw [← parted.mem_iff, List.map_cons, List.mem_cons]
  constructor
  · intro member
    refine ⟨.inr member, ?_⟩
    rintro rfl
    exact apart.1 member
  · rintro ⟨same | member, different⟩
    · exact absurd same different
    · exact member

theorem decodeValid_eq_ok {payload : Json} {blocks : List Block} :
    decodeValid payload = .ok blocks ↔ decode payload = .ok blocks ∧ Storable blocks := by
  rw [← validate_iff]
  unfold decodeValid
  cases decode payload with
  | error cause => simp [bind, Except.bind]
  | ok found =>
      cases checked : validate found with
      | error cause =>
          simp only [checked, bind, Except.bind, reduceCtorEq, Except.ok.injEq, false_iff,
            not_and]
          rintro rfl valid
          rw [checked] at valid
          cases valid
      | ok =>
          simp only [checked, bind, Except.bind, pure, Except.pure, Except.ok.injEq]
          constructor
          · rintro rfl
            exact ⟨rfl, checked⟩
          · exact fun accepted => accepted.1

end Blocks

end BlockMail
