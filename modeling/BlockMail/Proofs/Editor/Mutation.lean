import BlockMail.Proofs.Template.Codec
import BlockMail.Proofs.Template.Validity

/-!
# What mutations do

The document that each mutation makes, as one relation with what the checks before
it have found out. Laws of mutations are cases over this relation.
-/

set_option autoImplicit false

namespace BlockMail

namespace Starter

@[simp] theorem paletteBlock_id (kind : BlockKind) (id : String) :
    (paletteBlock kind id).id = id := by
  cases kind <;> rfl

theorem paletteBlock_kind (kind : BlockKind) (id : String) :
    (paletteBlock kind id).kind? = some kind := by
  cases kind <;> rfl

end Starter

namespace Document

theorem findBlock?_eq_none {document : Document} {id : String} :
    document.findBlock? id = none ↔ ∀ block ∈ document.blocks, block.id ≠ id := by
  simp [findBlock?]

/-- The position of a block is that of a block with its identifier. -/
theorem position_ok {document : Document} {id : String} {index : Nat}
    (found : document.position id = .ok index) :
    ∃ block, document.blocks[index]? = some block ∧ block.id = id := by
  unfold position at found
  split at found
  · rename_i present
    cases found
    obtain ⟨inside, named, _⟩ := List.findIdx?_eq_some_iff_getElem.1 present
    exact ⟨_, List.getElem?_eq_getElem inside, by simpa using named⟩
  · cases found

theorem located_ok {document : Document} {id : String} {index : Nat} {block : Block}
    (found : document.located id = .ok (index, block)) :
    document.position id = .ok index ∧ document.blocks[index]? = some block ∧
      block.id = id := by
  obtain ⟨position, placed, found⟩ := exists_of_bind found
  obtain ⟨present, there, named⟩ := position_ok placed
  rw [there] at found
  cases found
  exact ⟨placed, there, named⟩

end Document

theorem Block.edited_ok {block edited : Block} {key : String} {value : Json}
    (succeeded : block.edited key value = .ok edited) :
    ∃ content, block.content.setField key value = .ok content ∧
      edited = { block with content := content } := by
  unfold Block.edited setField at succeeded
  cases set : block.content.setField key value with
  | error cause => simp [set, Except.map] at succeeded
  | ok content =>
      simp only [set, Except.map, Except.ok.injEq] at succeeded
      exact ⟨content, rfl, succeeded.symm⟩

namespace Mutation

/-- What a mutation that succeeds makes of a document, and the identifier of the
block that it creates. -/
inductive Effect (freshId : String) (document : Document) :
    Mutation → Document → Option String → Prop where
  | added {kind : BlockKind} {index : Option Nat} :
      Effect freshId document (.addBlock kind index)
        (document.withBlocks
          (Blocks.insertAt document.blocks index (Starter.paletteBlock kind freshId)))
        (some freshId)
  | inserted {block : Block} {index : Option Nat} :
      block.Storable → document.findBlock? block.id = none →
      Effect freshId document (.insertBlock block index)
        (document.withBlocks (Blocks.insertAt document.blocks index block))
        (some block.id)
  | removed {blockId : String} {index : Nat} :
      document.position blockId = .ok index →
      Effect freshId document (.removeBlock blockId)
        (document.withBlocks (document.blocks.eraseIdx index)) none
  | moved {blockId : String} {target index : Nat} :
      document.position blockId = .ok index →
      Effect freshId document (.moveBlock blockId target)
        (document.withBlocks (Blocks.moveTo document.blocks index target)) none
  | dataSet {blockId key : String} {value : Json} {index : Nat} {block : Block}
      {content : Content} :
      document.position blockId = .ok index → document.blocks[index]? = some block →
      block.id = blockId → block.content.setField key value = .ok content →
      Effect freshId document (.setBlockData blockId key value)
        (document.withBlocks
          (document.blocks.set index { block with content := content })) none
  | styleSet {blockId key : String} {value : Option Scalar} {index : Nat}
      {block : Block} :
      document.position blockId = .ok index → document.blocks[index]? = some block →
      block.id = blockId →
      Effect freshId document (.setBlockStyle blockId key value)
        (document.withBlocks (document.blocks.set index (block.setStyle key value))) none
  | named {value : String} :
      Effect freshId document (.setName value) { document with name := value } none
  | categorized {value : String} :
      Effect freshId document (.setCategory value) { document with category := value }
        none
  | titled {value : String} :
      Effect freshId document (.setSubject value) { document with subject := value } none
  | described {value : Option String} :
      Effect freshId document (.setDescription value)
        { document with description := value.filter fun text => !text.isEmpty } none
  | shown {value : Visibility} :
      Effect freshId document (.setVisibility value) { document with visibility := value }
        none

variable {mutation : Mutation} {freshId : String} {document after : Document}
  {created : Option String}

theorem insertable {block : Block} {index : Option Nat}
    (valid : (insertBlock block index).validate document = .ok ()) :
    block.Storable ∧ document.findBlock? block.id = none := by
  simp only [validate] at valid
  split at valid
  · cases valid
  · rename_i filled
    split at valid
    · cases valid
    · rename_i absent
      split at valid
      · cases valid
      · rename_i known
        refine ⟨⟨?_, ?_⟩, ?_⟩
        · simpa using filled
        · simpa using known
        · simpa using absent

theorem effect_of_apply (applied : mutation.apply freshId document = .ok (after, created)) :
    Effect freshId document mutation after created := by
  obtain ⟨_, valid, performed⟩ := exists_of_bind applied
  cases mutation with
  | addBlock kind index =>
      simp only [perform, Starter.paletteBlock_id] at performed
      cases performed
      exact .added
  | insertBlock block index =>
      obtain ⟨storable, absent⟩ := insertable valid
      cases performed
      exact .inserted storable absent
  | removeBlock blockId =>
      obtain ⟨index, placed, performed⟩ := exists_of_bind performed
      cases performed
      exact .removed placed
  | moveBlock blockId target =>
      obtain ⟨index, placed, performed⟩ := exists_of_bind performed
      cases performed
      exact .moved placed
  | setBlockData blockId key value =>
      obtain ⟨⟨index, block⟩, found, performed⟩ := exists_of_bind performed
      obtain ⟨placed, there, named⟩ := Document.located_ok found
      obtain ⟨edited, succeeded, performed⟩ := exists_of_bind performed
      obtain ⟨content, set, rfl⟩ := Block.edited_ok succeeded
      cases performed
      exact .dataSet placed there named set
  | setBlockStyle blockId key value =>
      obtain ⟨⟨index, block⟩, found, performed⟩ := exists_of_bind performed
      obtain ⟨placed, there, named⟩ := Document.located_ok found
      cases performed
      exact .styleSet placed there named
  | setName value =>
      cases performed
      exact .named
  | setCategory value =>
      cases performed
      exact .categorized
  | setSubject value =>
      cases performed
      exact .titled
  | setDescription value =>
      cases performed
      exact .described
  | setVisibility value =>
      cases performed
      exact .shown

/-! ## What mutations keep -/

/-- The block that a mutation takes from the palette has an identifier that no block
of the document has. -/
def FreshFor (freshId : String) (document : Document) : Mutation → Prop
  | .addBlock _ _ => freshId ≠ "" ∧ document.findBlock? freshId = none
  | _ => True

theorem Effect.storable (effect : Effect freshId document mutation after created)
    (fresh : mutation.FreshFor freshId document)
    (storable : Blocks.Storable document.blocks) : Blocks.Storable after.blocks := by
  have inserted {block : Block} (index : Option Nat) (single : block.Storable)
      (absent : document.findBlock? block.id = none) :
      Blocks.Storable (Blocks.insertAt document.blocks index block) :=
    .of_perm
      (Blocks.storable_cons.2 ⟨single, Document.findBlock?_eq_none.1 absent, storable⟩)
      (Blocks.insertAt_perm document.blocks index block)
  cases effect with
  | added =>
      refine inserted _ ⟨?_, ?_⟩ ?_
      · simpa using fresh.1
      · simp [Starter.paletteBlock_kind]
      · simpa using fresh.2
  | inserted single absent => exact inserted _ single absent
  | removed => exact storable.of_sublist (List.eraseIdx_sublist _ _)
  | moved => exact storable.of_perm (Blocks.moveTo_perm _ _ _)
  | dataSet _ there _ set =>
      refine storable.set there rfl ?_
      obtain ⟨kind, known⟩ := Option.ne_none_iff_exists'.1
        (storable.each _ (List.mem_of_getElem? there)).known
      have kept := Content.kind_of_setField known set
      simp [Block.kind?, kept]
  | styleSet _ there =>
      exact storable.set there rfl (storable.each _ (List.mem_of_getElem? there)).known
  | named | categorized | titled | described | shown => exact storable

/-- The identifiers of blocks after a mutation: those before it, less that of a removed
block, and that of a created one. -/
theorem Effect.mem_ids (effect : Effect freshId document mutation after created)
    (distinct : (document.blocks.map Block.id).Nodup) (id : String) :
    id ∈ after.blocks.map Block.id ↔
      (id ∈ document.blocks.map Block.id ∧ mutation ≠ .removeBlock id) ∨
        created = some id := by
  have inserted (block : Block) (index : Option Nat) :
      id ∈ (Blocks.insertAt document.blocks index block).map Block.id ↔
        id ∈ document.blocks.map Block.id ∨ block.id = id := by
    rw [((Blocks.insertAt_perm document.blocks index block).map Block.id).mem_iff,
      List.map_cons, List.mem_cons, or_comm, eq_comm]
  cases effect with
  | @added kind index =>
      have added := inserted (Starter.paletteBlock kind freshId) index
      simpa [Document.withBlocks] using added
  | @inserted block index => simpa [Document.withBlocks] using inserted block index
  | removed placed =>
      obtain ⟨block, there, rfl⟩ := Document.position_ok placed
      have erased := Blocks.mem_ids_eraseIdx distinct there id
      simp only [Document.withBlocks, erased, reduceCtorEq, or_false, ne_eq,
        Mutation.removeBlock.injEq, eq_comm]
  | moved =>
      rw [Document.withBlocks, ((Blocks.moveTo_perm _ _ _).map Block.id).mem_iff]
      simp
  | @dataSet _ _ _ _ block content _ there =>
      rw [Document.withBlocks, Blocks.ids_set there { block with content := content } rfl]
      simp
  | @styleSet _ key value _ block _ there =>
      rw [Document.withBlocks, Blocks.ids_set there (block.setStyle key value) rfl]
      simp
  | named | categorized | titled | described | shown => simp

theorem Effect.created_cases (effect : Effect freshId document mutation after created)
    {id : String} (made : created = some id) :
    (∃ kind index, mutation = .addBlock kind index ∧ id = freshId) ∨
      ∃ block index, mutation = .insertBlock block index ∧ id = block.id := by
  cases effect with
  | @added kind index =>
      cases made
      exact .inl ⟨kind, index, rfl, rfl⟩
  | @inserted block index =>
      cases made
      exact .inr ⟨block, index, rfl, rfl⟩
  | removed | moved | dataSet | styleSet | named | categorized | titled | described
  | shown => cases made

theorem Effect.mem_of_removeBlock (effect : Effect freshId document mutation after created)
    {id : String} (removes : mutation = .removeBlock id) :
    id ∈ document.blocks.map Block.id := by
  cases effect with
  | removed placed =>
      cases removes
      obtain ⟨block, there, rfl⟩ := Document.position_ok placed
      exact List.mem_map_of_mem (List.mem_of_getElem? there)
  | added | inserted | moved | dataSet | styleSet | named | categorized | titled
  | described | shown => cases removes

theorem Effect.description (effect : Effect freshId document mutation after created)
    (filled : document.description ≠ some "") : after.description ≠ some "" := by
  cases effect with
  | described =>
      intro empty
      have kept := Option.filter_eq_some_iff.1 empty
      simp at kept
  | added | inserted | removed | moved | dataSet | styleSet | named | categorized
  | titled | shown => exact filled

/-- No mutation says anything about whose document it is or where it comes from. -/
theorem Effect.identity (effect : Effect freshId document mutation after created) :
    after.id = document.id ∧ after.owner = document.owner ∧
      after.forkedFrom = document.forkedFrom ∧ after.updatedAt = document.updatedAt := by
  cases effect <;> exact ⟨rfl, rfl, rfl, rfl⟩

end Mutation

end BlockMail
