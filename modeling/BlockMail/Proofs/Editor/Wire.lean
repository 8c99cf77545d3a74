import BlockMail.Editor.MutationCodec
import BlockMail.Proofs.Template.DocumentCodec
import BlockMail.Template.Patch

/-!
# What the editor sends

Mutations and patches decode to themselves from the JSON that they are written as.
-/

set_option autoImplicit false

namespace BlockMail

open Decode Decode.Fields

theorem BlockKind.decode_shown {Source : Type} [Carrier Source] {carry : Json → Source}
    (shows : Shows carry) (kind : BlockKind) : BlockKind.decode (carry kind.toJson) = .ok kind :=
  shows.choice (BlockKind.ofName?_name kind) _

/-! ## Mutations -/

namespace Mutation

/-- The position that a mutation names. -/
def position? : Mutation → Option Nat
  | .addBlock _ index | .insertBlock _ index => index
  | .moveBlock _ index => some index
  | _ => none

theorem Action.ofName?_name (action : Action) : Action.ofName? action.name = some action := by
  cases action <;> decide +kernel

/-- The tag is read first, and the arguments are what remains. -/
theorem decode_toJson_eq (mutation : Mutation) :
    decode mutation.toJson = ofArguments mutation.action ⟨.object mutation.arguments⟩ := by
  have tagged : decodeAction (.string mutation.action.name) = .ok mutation.action := by
    simp only [decodeAction, alternative, Action.ofName?_name]
  have split : decode mutation.toJson =
      ofTagged (.string mutation.action.name) (.object mutation.arguments) := by
    simp only [decode, toJson, Keyed.lookup, Keyed.remove, if_true]
  rw [split, ofTagged, tagged]
  rfl

theorem indexDecoder_ofNat {index : Nat} (within : index < 2 ^ 64) :
    indexDecoder ⟨.ofNat index⟩ = .ok index := by
  have most : (index : Int) ≤ largestIndex := by
    change (index : Int) ≤ ((2 ^ 64 : Nat) : Int) - 1
    omega
  have word : Number.IsWord index := by
    unfold Number.IsWord
    omega
  unfold indexDecoder
  rw [shows_deferred.wholeNumber word (Int.natCast_nonneg index) most]
  rfl

theorem index_orNull {index : Option Nat} (within : ∀ place ∈ index, place < 2 ^ 64) :
    nullable indexDecoder ⟨Json.orNull Json.ofNat index⟩ = .ok index := by
  refine shows_deferred.nullable_orNull ?_
  intro place named
  exact ⟨rfl, indexDecoder_ofNat (within place named)⟩

theorem scalar_orNull (value : Option Scalar) :
    nullable Scalar.decode (Deferred.mk (Json.orNull Scalar.toJson value)) = .ok value := by
  refine shows_deferred.nullable_orNull ?_
  intro present _
  exact ⟨by cases present <;> rfl, present.decode_shown shows_deferred⟩

theorem text_orNull (value : Option String) :
    nullable Decode.text (Deferred.mk (Json.orNull .string value)) = .ok value := by
  refine shows_deferred.nullable_orNull ?_
  intro present _
  exact ⟨rfl, shows_deferred.text present⟩

theorem ofArguments_of_takes {action : Action} {mutation : Mutation}
    {arguments : List (String × Json)} (pairs : List (String × Option Deferred))
    (takes : (fields action).Takes (pairs.map Prod.snd) mutation)
    (numbered : (fields action).Numbered 0 (pairs.map Prod.fst))
    (written : arguments.map (fun member => (member.1, Deferred.mk member.2)) =
      membersOf pairs) :
    ofArguments action ⟨.object arguments⟩ = .ok mutation := by
  have shown : Carrier.layer (Deferred.mk (.object arguments)) =
      .object (membersOf pairs) true := by
    rw [← written]
    rfl
  unfold ofArguments
  exact takes.decodeAs pairs numbered shown _ _

theorem ofArguments_arguments (mutation : Mutation)
    (within : ∀ place ∈ mutation.position?, place < 2 ^ 64) :
    ofArguments mutation.action ⟨.object mutation.arguments⟩ = .ok mutation := by
  cases mutation with
  | addBlock kind index =>
      have takes : (fields .addBlock).Takes _ (.addBlock kind index) :=
        ((takes_none _).and (takes_single (kind.decode_shown shows_deferred))).and
          (takes_nullable (index_orNull within))
      exact ofArguments_of_takes [("kind", _), ("index", _)] takes rfl rfl
  | insertBlock block index =>
      have takes : (fields .insertBlock).Takes _ (.insertBlock block index) :=
        ((takes_none _).and (takes_single (block.decode_shown shows_deferred))).and
          (takes_nullable (index_orNull within))
      exact ofArguments_of_takes [("block", _), ("index", _)] takes rfl rfl
  | removeBlock blockId =>
      have takes : (fields .removeBlock).Takes _ (.removeBlock blockId) :=
        (takes_none _).and (takes_single (shows_deferred.text blockId))
      exact ofArguments_of_takes [("blockId", _)] takes rfl rfl
  | moveBlock blockId index =>
      have takes : (fields .moveBlock).Takes _ (.moveBlock blockId index) :=
        ((takes_none _).and (takes_single (shows_deferred.text blockId))).and
          (takes_single (indexDecoder_ofNat (within index rfl)))
      exact ofArguments_of_takes [("blockId", _), ("index", _)] takes rfl rfl
  | setBlockData blockId key value =>
      have takes : (fields .setBlockData).Takes _ (.setBlockData blockId key value) :=
        (((takes_none _).and (takes_single (shows_deferred.text blockId))).and
          (takes_single (shows_deferred.text key))).and
          (takes_single (shows_deferred.any value))
      exact ofArguments_of_takes [("blockId", _), ("key", _), ("value", _)] takes rfl rfl
  | setBlockStyle blockId key value =>
      have takes : (fields .setBlockStyle).Takes _ (.setBlockStyle blockId key value) :=
        (((takes_none _).and (takes_single (shows_deferred.text blockId))).and
          (takes_single (shows_deferred.text key))).and (takes_nullable (scalar_orNull value))
      exact ofArguments_of_takes [("blockId", _), ("key", _), ("value", _)] takes rfl rfl
  | setName value | setCategory value | setSubject value =>
      exact ofArguments_of_takes [("value", _)]
        ((takes_none _).and (takes_single (shows_deferred.text value))) rfl rfl
  | setDescription value =>
      exact ofArguments_of_takes [("value", _)]
        ((takes_none _).and (takes_nullable (text_orNull value))) rfl rfl
  | setVisibility value =>
      exact ofArguments_of_takes [("value", _)]
        ((takes_none _).and (takes_single (value.decode_shown shows_deferred))) rfl rfl

end Mutation

/-! ## Patches -/

theorem Json.memberIfSome_eq {Value : Type} (name : String) (encode : Value → Json)
    (value : Option Value) :
    memberIfSome name encode value = (value.map encode).toList.map (name, ·) := by
  cases value <;> rfl

namespace DocumentPatch

theorem toJson_eq (patch : DocumentPatch) :
    patch.toJson = .object (membersOf
      [("name", patch.name.map .string), ("category", patch.category.map .string),
        ("subject", patch.subject.map .string), ("description", patch.description.map .string),
        ("blocks", patch.blocks.map id),
        ("visibility", patch.visibility.map Visibility.toJson)]) := by
  have last : membersOf ([] : List (String × Option Json)) = [] := rfl
  simp only [toJson, Json.memberIfSome_eq, membersOf_cons, last, List.append_assoc,
    List.append_nil]

theorem decode_toJson (patch : DocumentPatch) (present : patch.blocks ≠ some .null) :
    DocumentPatch.decode patch.toJson = .ok patch := by
  have written (value : String) :
      nullable Decode.text (Json.string value) = .ok (some value) :=
    shows_json.nullable_some rfl (shows_json.text value)
  -- A payload of `null` would be read as no payload.
  have payload : ∀ blocks, patch.blocks = some blocks →
      nullable Decode.any blocks = .ok (some blocks) := by
    intro blocks given
    refine shows_json.nullable_some ?_ (shows_json.any blocks)
    cases blocks with
    | null => exact absurd given present
    | bool | number | string | array | object => rfl
  have takes : (editableFields DocumentPatch.mk : Fields Json DocumentPatch).Takes _ patch :=
    ((((((takes_none _).and
      (takes_optional fun value _ => written value)).and
      (takes_optional fun value _ => written value)).and
      (takes_optional fun value _ => written value)).and
      (takes_optional fun value _ => written value)).and
      (takes_optional payload)).and
      (takes_optional fun value _ =>
        shows_json.nullable_some rfl (value.decode_shown shows_json))
  have decoded : (editableFields DocumentPatch.mk).decode "DocumentPatch" patch.toJson =
      .ok patch := by
    rw [toJson_eq]
    exact takes.decodeAs
      [("name", _), ("category", _), ("subject", _), ("description", _), ("blocks", _),
        ("visibility", _)] rfl rfl _ _
  exact decoded

end DocumentPatch

/-- Mutations and patches come back from the JSON that they are written as: mutations whose
positions fit, and patches that do not carry `null` for blocks. -/
theorem mutations_and_patches_come_back :
    (∀ mutation : Mutation, (∀ place ∈ mutation.position?, place < 2 ^ 64) →
      Mutation.decode mutation.toJson = .ok mutation) ∧
      ∀ patch : DocumentPatch, patch.blocks ≠ some .null →
        DocumentPatch.decode patch.toJson = .ok patch := by
  constructor
  · intro mutation within
    rw [mutation.decode_toJson_eq, mutation.ofArguments_arguments within]
  · intro patch present
    exact patch.decode_toJson present

/-- A block of an unknown type put at the largest position, `null` as data, and a patch
that clears a description. -/
theorem mutations_and_patches_come_back_at_limits :
    let video : Block := ⟨"v", .foreign ⟨"video", .emptyObject, by decide, rfl⟩, .empty⟩
    let insert : Mutation := .insertBlock video (some 18446744073709551615)
    let clear : Mutation := .setBlockData "v" "type" .null
    let patch : DocumentPatch := ⟨none, some "News", none, some "", some (.string "[]"), none⟩
    Mutation.decode insert.toJson = .ok insert ∧ Mutation.decode clear.toJson = .ok clear ∧
      DocumentPatch.decode patch.toJson = .ok patch := by
  intro video insert clear patch
  obtain ⟨mutations, patches⟩ := mutations_and_patches_come_back
  refine ⟨mutations insert ?_, mutations clear nofun, patches patch nofun⟩
  intro place named
  rw [← Option.some.inj named]
  decide

end BlockMail
