import BlockMail.Proofs.Editor.InPlace
import BlockMail.Proofs.Keyed.Lookup
import BlockMail.Proofs.Template.ContentFields

/-!
# Edits of one key

What setting one field of a block's data, or one attribute of its style, leaves alone. An
edit of a field that is refused leaves the block as it was. Edits of different fields of a
block of a known kind can be made in either order.
-/

set_option autoImplicit false

namespace BlockMail

open InPlace Decode

namespace Block

/-- Sets a field of a block in place. The content is written once it has been made. -/
def fieldWork (key : String) (value : Json) : InPlace Block DecodeError Unit := do
  let content ← consult fun block => block.content.setField key value
  modify fun block => { block with content := content }

theorem on_fieldWork (block : Block) (key : String) (value : Json) :
    (fieldWork key value).on block =
      match block.setField key value with
      | .ok edited => (.ok (), edited)
      | .error cause => (.error cause, block) := by
  unfold fieldWork Block.setField
  rw [on_bind, on_consult]
  cases block.content.setField key value <;> rfl

/-! ## Blocks of a known kind -/

section Known

variable {block other : Block} {kind : BlockKind} {key : String} {value : Json}

theorem eq_of_values (known : block.kind? = some kind) (alsoKnown : other.kind? = some kind)
    (id : block.id = other.id) (style : block.style = other.style)
    (values : block.content.values = other.content.values) : block = other := by
  have content := Content.eq_of_values known alsoKnown values
  cases block
  cases other
  simp_all

/-- A block in which one field holds something else. -/
structure FieldChanged (kind : BlockKind) (key : String) (new : Option String)
    (before after : Block) : Prop where
  id : after.id = before.id
  style : after.style = before.style
  kind : after.kind? = some kind
  values : after.content.values = Keyed.put key new before.content.values

theorem setField_of_undeclared (known : block.kind? = some kind)
    (undeclared : key ∉ kind.fields.map Prod.fst) (value : Json) :
    block.setField key value = .ok block := by
  unfold Block.setField
  rw [Content.setField_of_undeclared known undeclared]
  rfl

theorem setField_of_refused {clearable : Bool} (known : block.kind? = some kind)
    (declared : (key, clearable) ∈ kind.fields)
    (refused : Content.setting? clearable value = none) :
    block.setField key value = .error (.wrongType (.ofJson value) "a string") := by
  have set := Content.fieldSet_of_declared known declared value
  rw [refused] at set
  unfold Block.setField
  rw [set]
  rfl

theorem setField_of_accepted {clearable : Bool} {new : Option String}
    (known : block.kind? = some kind) (declared : (key, clearable) ∈ kind.fields)
    (accepted : Content.setting? clearable value = some new) :
    ∃ edited, block.setField key value = .ok edited ∧
      FieldChanged kind key new block edited := by
  have set := Content.fieldSet_of_declared known declared value
  rw [accepted] at set
  obtain ⟨content, made, kept, values⟩ := set
  unfold Block.setField
  rw [made]
  exact ⟨_, rfl, rfl, rfl, kept, values⟩

/-- An edit does the same to all blocks of a kind: it leaves each of them as it is, or sets
the field of each to one value. -/
theorem fieldWork_cases (kind : BlockKind) (key : String) (value : Json) :
    (∃ outcome, ∀ block : Block, block.kind? = some kind →
      (fieldWork key value).on block = (outcome, block)) ∨
    (key ∈ kind.fields.map Prod.fst ∧ ∃ new, ∀ block : Block, block.kind? = some kind →
      ∃ edited, (fieldWork key value).on block = (.ok (), edited) ∧
        FieldChanged kind key new block edited) := by
  by_cases declared : key ∈ kind.fields.map Prod.fst
  · obtain ⟨⟨_, clearable⟩, member, rfl⟩ := List.mem_map.1 declared
    cases set : Content.setting? clearable value with
    | none =>
        refine .inl ⟨.error (.wrongType (.ofJson value) "a string"), ?_⟩
        intro block known
        rw [on_fieldWork, setField_of_refused known member set]
    | some new =>
        refine .inr ⟨declared, new, ?_⟩
        intro block known
        obtain ⟨edited, made, changed⟩ := setField_of_accepted known member set
        exact ⟨edited, by rw [on_fieldWork, made], changed⟩
  · refine .inl ⟨.ok (), ?_⟩
    intro block known
    rw [on_fieldWork, setField_of_undeclared known declared]

/-- The last block of two edits, whichever is made first. Each of them succeeds or fails as
it does alone. -/
theorem fieldWork_comm (known : block.kind? = some kind) {key other : String}
    (different : key ≠ other) (value another : Json) :
    ∃ last,
      (fieldWork other another).on ((fieldWork key value).on block).2 =
        (((fieldWork other another).on block).1, last) ∧
      (fieldWork key value).on ((fieldWork other another).on block).2 =
        (((fieldWork key value).on block).1, last) := by
  rcases fieldWork_cases kind key value with ⟨outcome, first⟩ | ⟨there, new, first⟩
  · -- The first edit leaves blocks alone, so the second decides.
    rw [first block known]
    refine ⟨((fieldWork other another).on block).2, rfl, ?_⟩
    rcases fieldWork_cases kind other another with ⟨_, second⟩ | ⟨_, _, second⟩
    · rw [second block known, first block known]
    · obtain ⟨edited, made, changed⟩ := second block known
      rw [made, first edited changed.kind]
  · obtain ⟨edited, made, changed⟩ := first block known
    rw [made]
    rcases fieldWork_cases kind other another with ⟨outcome, second⟩ | ⟨alsoThere, also, second⟩
    · rw [second block known, second edited changed.kind]
      exact ⟨edited, rfl, made⟩
    · obtain ⟨alternative, madeFirst, changedFirst⟩ := second block known
      obtain ⟨last, madeThen, changedThen⟩ := second edited changed.kind
      obtain ⟨final, madeLast, changedLast⟩ := first alternative changedFirst.kind
      rw [madeFirst, madeThen, madeLast]
      refine ⟨last, rfl, ?_⟩
      have names := Content.names_values known
      have same : final = last := by
        refine eq_of_values changedLast.kind changedThen.kind ?_ ?_ ?_
        · rw [changedLast.id, changedFirst.id, changedThen.id, changed.id]
        · rw [changedLast.style, changedFirst.style, changedThen.style, changed.style]
        · rw [changedLast.values, changedFirst.values, changedThen.values, changed.values]
          exact Keyed.put_comm different _ _ (names ▸ there) (names ▸ alsoThere)
      rw [same]

end Known

/-- What setting one field of a block comes to. -/
structure FieldEdit (block : Block) (key : String) (value : Json) : Prop where
  sameId : ((fieldWork key value).on block).2.id = block.id
  sameStyle : ((fieldWork key value).on block).2.style = block.style
  sameType : ((fieldWork key value).on block).2.content.typeName = block.content.typeName
  /-- The block in place is the edited one, or is left as it was. -/
  inPlace : (fieldWork key value).on block =
    match block.setField key value with
    | .ok edited => (.ok (), edited)
    | .error cause => (.error cause, block)
  /-- Only a declared field complains, and only about a value that it does not take. -/
  complaint : ∀ kind, block.kind? = some kind →
    ((∃ cause, block.setField key value = .error cause) ↔
      ∃ clearable, (key, clearable) ∈ kind.fields ∧ Content.setting? clearable value = none)
  undeclared : ∀ kind, block.kind? = some kind → key ∉ kind.fields.map Prod.fst →
    block.setField key value = .ok block
  /-- A declared field has the new value, and the others have what they had. -/
  declared : ∀ kind clearable new, block.kind? = some kind → (key, clearable) ∈ kind.fields →
    Content.setting? clearable value = some new →
    ∃ edited, block.setField key value = .ok edited ∧ FieldChanged kind key new block edited ∧
      ∀ name, Keyed.lookup name edited.content.values =
        if name = key then some new else Keyed.lookup name block.content.values
  /-- Data of an unknown type takes any key, and is an object from then on. -/
  unknown : block.kind? = none → ∃ edited members, block.setField key value = .ok edited ∧
    edited.content.toJson = .object members ∧
    Keyed.Written key value block.content.dataMembers members

theorem fieldEdit (block : Block) (key : String) (value : Json) : block.FieldEdit key value := by
  have outcome := on_fieldWork block key value
  have kept : ∀ after, ((fieldWork key value).on block).2 = after →
      after.id = block.id ∧ after.style = block.style ∧
        after.content.typeName = block.content.typeName := by
    rw [outcome]
    unfold Block.setField
    rintro after rfl
    cases set : block.content.setField key value with
    | error cause => exact ⟨rfl, rfl, rfl⟩
    | ok content => exact ⟨rfl, rfl, Content.typeName_of_setField set⟩
  constructor
  case sameId => exact (kept _ rfl).1
  case sameStyle => exact (kept _ rfl).2.1
  case sameType => exact (kept _ rfl).2.2
  case inPlace => exact outcome
  case complaint =>
    intro kind known
    constructor
    · rintro ⟨cause, failed⟩
      by_cases declared : key ∈ kind.fields.map Prod.fst
      · obtain ⟨⟨_, clearable⟩, member, rfl⟩ := List.mem_map.1 declared
        refine ⟨clearable, member, ?_⟩
        cases set : Content.setting? clearable value with
        | none => rfl
        | some new =>
            obtain ⟨edited, made, _⟩ := setField_of_accepted known member set
            cases failed.symm.trans made
      · cases failed.symm.trans (setField_of_undeclared known declared value)
    · rintro ⟨clearable, member, set⟩
      exact ⟨_, setField_of_refused known member set⟩
  case undeclared =>
    intro kind known undeclared
    exact setField_of_undeclared known undeclared value
  case declared =>
    intro kind clearable new known member accepted
    obtain ⟨edited, made, changed⟩ := setField_of_accepted known member accepted
    refine ⟨edited, made, changed, ?_⟩
    intro name
    rw [changed.values, Keyed.lookup_put]
  case unknown =>
    intro unknown
    obtain ⟨id, content, style⟩ := block
    cases content with
    | foreign foreign =>
        have made := Content.setField_of_foreign foreign key value
        exact ⟨_, _, congrArg (Except.map _) made, rfl, Keyed.written_put key value _⟩
    | _ => cases unknown

/-! ## Styles -/

/-- A style before and after one attribute is set, or removed when there is no value. -/
def AttributeChanged (key : String) (value : Option Scalar) (before after : StyleMap) : Prop :=
  match value with
  | some value => Keyed.Written key value before.entries after.entries
  | none => Keyed.Removed key before.entries after.entries

theorem attributeChanged_setStyle (block : Block) (key : String) (value : Option Scalar) :
    AttributeChanged key value block.style (block.setStyle key value).style := by
  cases value with
  | some value => exact Keyed.written_put key value block.style.entries
  | none => exact Keyed.removed_remove key block.style.distinct

end Block

/-! ## Documents -/

namespace Mutation

variable {document : Document} {blockId key : String} {index : Nat} {block : Block}

theorem apply_setBlockStyle (found : document.located blockId = .ok (index, block))
    (key : String) (value : Option Scalar) (freshId : String) :
    (setBlockStyle blockId key value).apply freshId document =
      .ok (document.withBlocks (document.blocks.set index (block.setStyle key value)), none) := by
  have placed := (Document.located_ok found).1
  simp only [apply, validate, perform, placed, found]
  rfl

theorem apply_setBlockData (found : document.located blockId = .ok (index, block))
    (key : String) (value : Json) (freshId : String) :
    (setBlockData blockId key value).apply freshId document =
      match block.setField key value with
      | .ok edited => .ok (document.withBlocks (document.blocks.set index edited), none)
      | .error cause => .error (.invalidData blockId cause) := by
  obtain ⟨_, _, rfl⟩ := Document.located_ok found
  simp only [apply, validate, perform, found, Block.edited, bind, Except.bind]
  cases block.setField key value <;> rfl

end Mutation

/-- Setting a field of a block writes that field alone: a declared field of a known kind
if the value is of its type, no field under an undeclared name, and any key of the data of
an unknown type. Two such edits of a block of a known kind can be made in either order.
Setting an attribute of a style replaces it in its place, appends it or removes it. In a
document only the block that is found is another. -/
theorem edits_touch_one_key :
    (∀ (block : Block) (key : String) (value : Json), block.FieldEdit key value) ∧
    (∀ (block : Block) (key other : String) (value another : Json), block.kind? ≠ none →
      key ≠ other → ∃ last,
        (Block.fieldWork other another).on ((Block.fieldWork key value).on block).2 =
          (((Block.fieldWork other another).on block).1, last) ∧
        (Block.fieldWork key value).on ((Block.fieldWork other another).on block).2 =
          (((Block.fieldWork key value).on block).1, last)) ∧
    ∀ (document : Document) (freshId blockId : String) (index : Nat) (block : Block),
      document.located blockId = .ok (index, block) →
      (∀ key value,
        (Mutation.setBlockData blockId key value).apply freshId document =
          match block.setField key value with
          | .ok edited => .ok (document.withBlocks (document.blocks.set index edited), none)
          | .error cause => .error (.invalidData blockId cause)) ∧
      ∀ key value, ∃ styled,
        (Mutation.setBlockStyle blockId key value).apply freshId document =
          .ok (document.withBlocks (document.blocks.set index styled), none) ∧
        styled.id = block.id ∧ styled.content = block.content ∧
        Block.AttributeChanged key value block.style styled.style := by
  refine ⟨Block.fieldEdit, ?_, ?_⟩
  · intro block key other value another known different
    obtain ⟨kind, known⟩ := Option.ne_none_iff_exists'.1 known
    exact Block.fieldWork_comm known different value another
  · intro document freshId blockId index block found
    constructor
    · intro key value
      exact Mutation.apply_setBlockData found key value freshId
    · intro key value
      exact ⟨block.setStyle key value, Mutation.apply_setBlockStyle found key value freshId,
        rfl, rfl, Block.attributeChanged_setStyle block key value⟩

/-- A header whose subtitle is cleared before and after its title is refused a number, a
carousel without data, and a style that loses its second attribute. -/
theorem edits_touch_one_key_of_header :
    let style : StyleMap :=
      ⟨[("color", .text "red"), ("padding", .text "4px"), ("margin", .text "0")], by decide⟩
    let block : Block := ⟨"h", .header "May" (some "News"), style⟩
    let cleared : Block := ⟨"h", .header "May" none, style⟩
    let carousel : Block := ⟨"c", .foreign ⟨"carousel", .array [], by decide, rfl⟩, .empty⟩
    (∃ last, (Block.fieldWork "title" (.ofNat 5)).on
        ((Block.fieldWork "subtitle" .null).on block).2 =
          (.error (.wrongType (.number (.integer 5 (by decide))) "a string"), last) ∧
      (Block.fieldWork "subtitle" .null).on
        ((Block.fieldWork "title" (.ofNat 5)).on block).2 = (.ok (), last) ∧
      last = cleared) ∧
    (∃ cause, block.setField "title" .null = .error cause) ∧
    block.setField "colour" .null = .ok block ∧
    (∃ edited members, carousel.setField "speed" (.ofNat 3) = .ok edited ∧
      edited.content.toJson = .object members ∧
      Keyed.Written "speed" (.ofNat 3) [] members) ∧
    ∃ styled, Block.AttributeChanged "padding" none style styled ∧
      styled.entries = [("color", .text "red"), ("margin", .text "0")] := by
  intro style block cleared carousel
  obtain ⟨edit, commute, documents⟩ := edits_touch_one_key
  let document : Document := ⟨⟨"t1"⟩, ⟨"ada"⟩, "Welcome", "News", "Hi", none, .everyone, none,
    [block], ⟨⟨2024, 5, 1, by decide⟩, 720, 0, 0, by decide⟩⟩
  refine ⟨?_, ?_, ?_, ?_, ?_⟩
  · have known : block.kind? ≠ none := nofun
    obtain ⟨last, first, second⟩ :=
      commute block "subtitle" "title" .null (.ofNat 5) known (by decide)
    exact ⟨last, first, second, (congrArg Prod.snd second).symm⟩
  · exact ((edit block "title" .null).complaint .header rfl).2 ⟨false, by decide, rfl⟩
  · exact (edit block "colour" .null).undeclared .header rfl (by decide)
  · exact (edit carousel "speed" (.ofNat 3)).unknown rfl
  · obtain ⟨_, styles⟩ := documents document "" "h" 0 block rfl
    obtain ⟨styled, applied, _, _, changed⟩ := styles "padding" none
    cases applied
    exact ⟨_, changed, rfl⟩

end BlockMail
