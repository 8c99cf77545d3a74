import BlockMail.Proofs.Editor.Mutation

/-!
# Blocks that come, go and move

What the mutations of the list of blocks make of it: one block is put among the others,
taken out from among them, or taken out and put back at another place. The others stay
as they are and in their order, and so does all that is not a block.
-/

set_option autoImplicit false

namespace BlockMail

namespace Blocks

/-- The blocks are some others, in their order, and one block more at a place. -/
structure Placed (others : List Block) (place : Nat) (block : Block) (blocks : List Block) :
    Prop where
  there : blocks[place]? = some block
  others : blocks.eraseIdx place = others

section

variable {others blocks : List Block} {place : Nat} {block : Block}

theorem Placed.inside (placed : Placed others place block blocks) : place < blocks.length :=
  (List.getElem?_eq_some_iff.1 placed.there).1

theorem Placed.eq_insertIdx (placed : Placed others place block blocks) :
    blocks = others.insertIdx place block := by
  obtain ⟨inside, found⟩ := List.getElem?_eq_some_iff.1 placed.there
  rw [← placed.others, ← found, List.insertIdx_eraseIdx_getElem inside]

theorem Placed.length (placed : Placed others place block blocks) :
    others.length = blocks.length - 1 := by
  rw [← placed.others, List.length_eraseIdx_of_lt placed.inside]

theorem Placed.perm (placed : Placed others place block blocks) :
    List.Perm blocks (block :: others) := by
  obtain ⟨inside, found⟩ := List.getElem?_eq_some_iff.1 placed.there
  rw [← placed.others, ← found]
  exact (List.getElem_cons_eraseIdx_perm inside).symm

/-- One block, its place and the others decide the list. -/
theorem Placed.unique {same : List Block} (one : Placed others place block blocks)
    (two : Placed others place block same) : blocks = same :=
  one.eq_insertIdx.trans two.eq_insertIdx.symm

/-- The block is told from the others by its identifier. -/
theorem Placed.apart (placed : Placed others place block blocks)
    (distinct : (blocks.map Block.id).Nodup) : ∀ other ∈ others, other.id ≠ block.id := by
  have apart := (placed.perm.map Block.id).nodup_iff.1 distinct
  rw [List.map_cons, List.nodup_cons] at apart
  rintro other member same
  exact apart.1 (List.mem_map.2 ⟨other, member, same⟩)

theorem Placed.distinct (placed : Placed others place block blocks)
    (distinct : (others.map Block.id).Nodup) (apart : ∀ other ∈ others, other.id ≠ block.id) :
    (blocks.map Block.id).Nodup := by
  rw [(placed.perm.map Block.id).nodup_iff, List.map_cons, List.nodup_cons]
  refine ⟨?_, distinct⟩
  intro member
  obtain ⟨other, inside, same⟩ := List.mem_map.1 member
  exact apart other inside same

theorem placed_insertAt (others : List Block) (index : Option Nat) (block : Block) :
    Placed others (min (index.getD others.length) others.length) block
      (insertAt others index block) := by
  refine ⟨?_, List.eraseIdx_insertIdx_self block⟩
  rw [insertAt, List.getElem?_insertIdx_self, if_pos (Nat.min_le_right _ _)]

theorem placed_of_getElem? (there : blocks[place]? = some block) :
    Placed (blocks.eraseIdx place) place block blocks := ⟨there, rfl⟩

theorem placed_moveTo (placed : Placed others place block blocks) (target : Nat) :
    Placed others (min target (blocks.length - 1)) block (moveTo blocks place target) := by
  have moved := placed_insertAt others (some target) block
  rw [Option.getD_some, placed.length] at moved
  simpa only [moveTo, placed.there, placed.others] using moved

end

end Blocks

namespace Document

open Blocks

variable {document : Document} {others : List Block} {place : Nat} {block : Block}

/-- Where identifiers are distinct a block is found at the place where it is. -/
theorem position_of_placed (distinct : (document.blocks.map Block.id).Nodup)
    (placed : Placed others place block document.blocks) :
    document.position block.id = .ok place := by
  obtain ⟨inside, rfl⟩ := List.getElem?_eq_some_iff.1 placed.there
  have first : document.blockIndex? document.blocks[place].id = some place := by
    unfold blockIndex?
    rw [List.findIdx?_eq_some_iff_getElem]
    refine ⟨inside, by simp, ?_⟩
    intro earlier before same
    have last : place < (document.blocks.map Block.id).length := by rwa [List.length_map]
    have first : earlier < (document.blocks.map Block.id).length := before.trans last
    have named : (document.blocks.map Block.id)[earlier] =
        (document.blocks.map Block.id)[place] := by simpa using same
    have equal : earlier = place := distinct.getElem_inj_iff.1 named
    exact absurd equal before.ne
  unfold position
  rw [first]

end Document

namespace Mutation

open Blocks

variable {document after : Document} {created : Option String} {freshId : String}

/-! ## What each of them does -/

theorem apply_insertBlock {block : Block} (storable : block.Storable)
    (absent : ∀ other ∈ document.blocks, other.id ≠ block.id) (index : Option Nat)
    (freshId : String) :
    (insertBlock block index).apply freshId document =
      .ok (document.withBlocks (insertAt document.blocks index block), some block.id) := by
  have valid : (insertBlock block index).validate document = .ok () := by
    simp [validate, storable.named, storable.known, Document.findBlock?_eq_none.2 absent]
  unfold apply
  rw [valid]
  rfl

theorem apply_removeBlock {id : String} {index : Nat}
    (placed : document.position id = .ok index) (freshId : String) :
    (removeBlock id).apply freshId document =
      .ok (document.withBlocks (document.blocks.eraseIdx index), none) := by
  simp only [apply, validate, perform, placed]
  rfl

theorem apply_moveBlock {id : String} {index : Nat}
    (placed : document.position id = .ok index) (target : Nat) (freshId : String) :
    (moveBlock id target).apply freshId document =
      .ok (document.withBlocks (moveTo document.blocks index target), none) := by
  simp only [apply, validate, perform, placed]
  rfl

/-- The document is as it was but for its blocks. -/
def OnlyBlocks (document after : Document) : Prop := after = document.withBlocks after.blocks

theorem OnlyBlocks.eq {blocks : List Block} (only : OnlyBlocks document after)
    (same : blocks = after.blocks) : document.withBlocks blocks = after := by
  rw [same]
  exact Eq.symm only

theorem apply_addBlock_iff {kind : BlockKind} {index : Option Nat} :
    (addBlock kind index).apply freshId document = .ok (after, created) ↔
      created = some freshId ∧ OnlyBlocks document after ∧
        Placed document.blocks (min (index.getD document.blocks.length) document.blocks.length)
          (Starter.paletteBlock kind freshId) after.blocks := by
  constructor
  · intro applied
    cases effect_of_apply applied
    exact ⟨rfl, rfl, placed_insertAt _ _ _⟩
  · rintro ⟨rfl, only, placed⟩
    have same := only.eq ((placed_insertAt _ index _).unique placed)
    change Except.ok (_, some (Starter.paletteBlock kind freshId).id) = _
    rw [same, Starter.paletteBlock_id]

theorem apply_insertBlock_iff {block : Block} {index : Option Nat} :
    (insertBlock block index).apply freshId document = .ok (after, created) ↔
      block.Storable ∧ (∀ other ∈ document.blocks, other.id ≠ block.id) ∧
        created = some block.id ∧ OnlyBlocks document after ∧
        Placed document.blocks (min (index.getD document.blocks.length) document.blocks.length)
          block after.blocks := by
  constructor
  · intro applied
    cases effect_of_apply applied with
    | inserted storable absent =>
        exact ⟨storable, Document.findBlock?_eq_none.1 absent, rfl, rfl, placed_insertAt _ _ _⟩
  · rintro ⟨storable, absent, rfl, only, placed⟩
    rw [apply_insertBlock storable absent,
      only.eq ((placed_insertAt _ index _).unique placed)]

theorem apply_removeBlock_iff {id : String} (distinct : (document.blocks.map Block.id).Nodup) :
    (removeBlock id).apply freshId document = .ok (after, created) ↔
      created = none ∧ OnlyBlocks document after ∧
        ∃ place block, block.id = id ∧ Placed after.blocks place block document.blocks := by
  constructor
  · intro applied
    cases effect_of_apply applied with
    | removed placed =>
        obtain ⟨block, there, named⟩ := Document.position_ok placed
        exact ⟨rfl, rfl, _, block, named, placed_of_getElem? there⟩
  · rintro ⟨rfl, only, place, block, rfl, placed⟩
    rw [apply_removeBlock (Document.position_of_placed distinct placed),
      only.eq placed.others]

theorem apply_moveBlock_iff {id : String} {target : Nat}
    (distinct : (document.blocks.map Block.id).Nodup) :
    (moveBlock id target).apply freshId document = .ok (after, created) ↔
      created = none ∧ OnlyBlocks document after ∧
        ∃ others place block, block.id = id ∧ Placed others place block document.blocks ∧
          Placed others (min target (document.blocks.length - 1)) block after.blocks := by
  constructor
  · intro applied
    cases effect_of_apply applied with
    | moved placed =>
        obtain ⟨block, there, named⟩ := Document.position_ok placed
        have before := placed_of_getElem? there
        exact ⟨rfl, rfl, _, _, block, named, before, placed_moveTo before target⟩
  · rintro ⟨rfl, only, others, place, block, rfl, before, behind⟩
    rw [apply_moveBlock (Document.position_of_placed distinct before),
      only.eq ((placed_moveTo before target).unique behind)]

/-! ## There and back -/

theorem removed_after_inserted {block : Block} (distinct : (document.blocks.map Block.id).Nodup)
    (storable : block.Storable) (absent : ∀ other ∈ document.blocks, other.id ≠ block.id)
    (index : Option Nat) (freshId : String) :
    ∃ after, (insertBlock block index).apply freshId document = .ok (after, some block.id) ∧
      (removeBlock block.id).apply freshId after = .ok (document, none) := by
  have placed := placed_insertAt document.blocks index block
  refine ⟨_, apply_insertBlock storable absent index freshId, ?_⟩
  rw [apply_removeBlock_iff (placed.distinct distinct absent)]
  exact ⟨rfl, rfl, _, block, rfl, placed⟩

theorem moved_after_moved {others : List Block} {place : Nat} {block : Block}
    (distinct : (document.blocks.map Block.id).Nodup)
    (placed : Placed others place block document.blocks) (target : Nat) (freshId : String) :
    ∃ after, (moveBlock block.id target).apply freshId document = .ok (after, none) ∧
      (moveBlock block.id place).apply freshId after = .ok (document, none) := by
  have there := placed_moveTo placed target
  refine ⟨_, apply_moveBlock (Document.position_of_placed distinct placed) target freshId, ?_⟩
  have apart := placed.apart distinct
  rw [apply_moveBlock_iff]
  · refine ⟨rfl, rfl, others, _, block, rfl, there, ?_⟩
    have within := placed.inside
    have length : _ = (moveTo document.blocks place target).length - 1 := there.length
    rw [placed.length] at length
    simp only [Document.withBlocks]
    rwa [min_eq_left]
    omega
  · exact there.distinct ((placed.perm.map Block.id).nodup_iff.1 distinct).of_cons apart

theorem inserted_after_removed {others : List Block} {place : Nat} {block : Block}
    (distinct : (document.blocks.map Block.id).Nodup)
    (placed : Placed others place block document.blocks) (storable : block.Storable)
    (freshId : String) :
    ∃ after, (removeBlock block.id).apply freshId document = .ok (after, none) ∧
      (insertBlock block (some place)).apply freshId after = .ok (document, some block.id) := by
  refine ⟨_, apply_removeBlock (Document.position_of_placed distinct placed) freshId, ?_⟩
  rw [placed.others, apply_insertBlock_iff]
  refine ⟨storable, placed.apart distinct, rfl, rfl, ?_⟩
  have within := placed.inside
  have length := placed.length
  simp only [Document.withBlocks, Option.getD_some]
  rwa [min_eq_left]
  omega

/-! ## All of them -/

/-- What mutations of the list of blocks come to on a document. -/
structure Rearranges (document : Document) : Prop where
  adds : ∀ kind index freshId after created,
    (addBlock kind index).apply freshId document = .ok (after, created) ↔
      created = some freshId ∧ OnlyBlocks document after ∧
        Placed document.blocks (min (index.getD document.blocks.length) document.blocks.length)
          (Starter.paletteBlock kind freshId) after.blocks
  inserts : ∀ block index freshId after created,
    (insertBlock block index).apply freshId document = .ok (after, created) ↔
      block.Storable ∧ (∀ other ∈ document.blocks, other.id ≠ block.id) ∧
        created = some block.id ∧ OnlyBlocks document after ∧
        Placed document.blocks (min (index.getD document.blocks.length) document.blocks.length)
          block after.blocks
  removes : ∀ id freshId after created,
    (removeBlock id).apply freshId document = .ok (after, created) ↔
      created = none ∧ OnlyBlocks document after ∧
        ∃ place block, block.id = id ∧ Placed after.blocks place block document.blocks
  moves : ∀ id target freshId after created,
    (moveBlock id target).apply freshId document = .ok (after, created) ↔
      created = none ∧ OnlyBlocks document after ∧
        ∃ others place block, block.id = id ∧ Placed others place block document.blocks ∧
          Placed others (min target (document.blocks.length - 1)) block after.blocks
  /-- A block that is let in can be taken out again. -/
  insertsAndRemoves : ∀ block index freshId, block.Storable →
    (∀ other ∈ document.blocks, other.id ≠ block.id) →
    ∃ after, (insertBlock block index).apply freshId document = .ok (after, some block.id) ∧
      (removeBlock block.id).apply freshId after = .ok (document, none)
  /-- A block can be moved anywhere and back. -/
  movesAndMoves : ∀ others place block target freshId,
    Placed others place block document.blocks →
    ∃ after, (moveBlock block.id target).apply freshId document = .ok (after, none) ∧
      (moveBlock block.id place).apply freshId after = .ok (document, none)
  /-- A block that can be stored can be taken out and let in again. -/
  removesAndInserts : ∀ others place block freshId,
    Placed others place block document.blocks → block.Storable →
    ∃ after, (removeBlock block.id).apply freshId document = .ok (after, none) ∧
      (insertBlock block (some place)).apply freshId after = .ok (document, some block.id)

/-- Where the identifiers of blocks are distinct, mutations of the list of blocks put in,
take out or move the one block that they name, and can be undone. -/
theorem rearranges {document : Document} (distinct : (document.blocks.map Block.id).Nodup) :
    Rearranges document where
  adds _ _ _ _ _ := apply_addBlock_iff
  inserts _ _ _ _ _ := apply_insertBlock_iff
  removes _ _ _ _ := apply_removeBlock_iff distinct
  moves _ _ _ _ _ := apply_moveBlock_iff distinct
  insertsAndRemoves _ index freshId storable absent :=
    removed_after_inserted distinct storable absent index freshId
  movesAndMoves _ _ _ target freshId placed :=
    moved_after_moved distinct placed target freshId
  removesAndInserts _ _ _ freshId placed storable :=
    inserted_after_removed distinct placed storable freshId

/-- The first of three blocks is moved behind the end and back. -/
theorem rearranges_three_blocks :
    let noon : Time.Instant := ⟨⟨2024, 5, 1, by decide⟩, 720, 0, 0, by decide⟩
    let head : Block := ⟨"head", .header "Welcome" none, .empty⟩
    let others : List Block := [⟨"body", .text "Hi", .empty⟩, ⟨"gap", .spacer, .empty⟩]
    let document : Document :=
      ⟨⟨"d1"⟩, ⟨"ada"⟩, "Welcome", "Onboarding", "Hello", none, .everyone, none,
        head :: others, noon⟩
    (document.blocks.map Block.id).Nodup ∧
      ∃ after, (moveBlock "head" 7).apply "" document = .ok (after, none) ∧
        after.blocks.map Block.id = ["body", "gap", "head"] ∧
        (moveBlock "head" 0).apply "" after = .ok (document, none) := by
  intro noon head others document
  have distinct : (document.blocks.map Block.id).Nodup := by decide
  have placed : Placed others 0 head document.blocks := ⟨rfl, rfl⟩
  obtain ⟨after, there, back⟩ := (rearranges distinct).movesAndMoves others 0 head 7 "" placed
  refine ⟨distinct, after, there, ?_, back⟩
  have moved := apply_moveBlock (Document.position_of_placed distinct placed) 7 ""
  cases there.symm.trans moved
  rfl

end Mutation

end BlockMail
