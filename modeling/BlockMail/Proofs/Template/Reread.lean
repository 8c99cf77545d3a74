import BlockMail.Proofs.Json.Parsed
import BlockMail.Proofs.Template.Codec
import BlockMail.Proofs.Template.Validity
import BlockMail.Store.Table

/-!
# Blocks read back from text

What becomes of blocks that are written as text and read again. They come back as they
were, but for the doubles among their numbers, which may come back as neighbours.
-/

set_option autoImplicit false

namespace BlockMail

open Decode

/-! ## Styles -/

namespace Scalar

/-- A scalar that was written and read. -/
def reread : Scalar → Scalar
  | .number value => .number value.reread
  | .text value => .text value
  | .bool value => .bool value

theorem toJson_reread (scalar : Scalar) : scalar.reread.toJson = scalar.toJson.reread := by
  cases scalar <;> rfl

theorem regular_toJson (scalar : Scalar) : scalar.toJson.Regular 0 := by
  cases scalar <;> exact ⟨trivial, Nat.le_refl 0⟩

end Scalar

namespace StyleMap

def reread (style : StyleMap) : StyleMap where
  entries := style.entries.map fun entry => (entry.1, entry.2.reread)
  distinct := by simpa [Function.comp_def] using style.distinct

theorem toJson_reread (style : StyleMap) : style.reread.toJson = style.toJson.reread := by
  have each (entries : List (String × Scalar)) :
      (entries.map fun entry => (entry.1, entry.2.reread)).map
          (fun entry => (entry.1, entry.2.toJson)) =
        Json.rereadMembers (entries.map fun entry => (entry.1, entry.2.toJson)) := by
    induction entries with
    | nil => rfl
    | cons entry rest ih =>
        simp only [List.map_cons, Json.rereadMembers, ih, Scalar.toJson_reread]
  exact congrArg Json.object (each style.entries)

theorem regular_toJson (style : StyleMap) : style.toJson.Regular 1 := by
  refine Json.regular_object.2 ⟨?_, ?_⟩
  · rw [List.map_map]
    exact style.distinct
  · intro member there
    obtain ⟨entry, found, rfl⟩ := List.mem_map.1 there
    exact Scalar.regular_toJson entry.2

end StyleMap

/-! ## Content -/

def ForeignContent.reread (content : ForeignContent) : ForeignContent where
  kind := content.kind
  data := content.data.reread
  foreign := content.foreign
  present := by
    have present := content.present
    cases data : content.data with
    | null =>
        rw [data] at present
        cases present
    | bool | number | string | array | object => rfl

namespace Content

/-- Content that was written and read. Known kinds hold no numbers. -/
def reread : Content → Content
  | .foreign content => .foreign content.reread
  | .header title subtitle => .header title subtitle
  | .text content => .text content
  | .image url alt => .image url alt
  | .button label url => .button label url
  | .spacer => .spacer
  | .footer line => .footer line

@[simp] theorem kind?_reread (content : Content) : content.reread.kind? = content.kind? := by
  cases content <;> rfl

@[simp] theorem typeName_reread (content : Content) :
    content.reread.typeName = content.typeName := by
  cases content <;> rfl

theorem toJson_reread (content : Content) : content.reread.toJson = content.toJson.reread := by
  cases content with
  | header title subtitle => cases subtitle <;> rfl
  | image url alt => cases alt <;> rfl
  | text | button | spacer | footer | foreign => rfl

/-- The data of a known kind holds nothing but texts. -/
theorem regular_of_known {content : Content} (known : content.kind? ≠ none) :
    content.toJson.Regular 1 := by
  have texts (members : List (String × String)) (distinct : (members.map Prod.fst).Nodup) :
      (Json.object (members.map fun member => (member.1, .string member.2))).Regular 1 := by
    refine Json.regular_object.2 ⟨by simpa [Function.comp_def] using distinct, ?_⟩
    intro member there
    obtain ⟨text, _, rfl⟩ := List.mem_map.1 there
    exact ⟨trivial, Nat.le_refl 0⟩
  cases content with
  | header title subtitle =>
      cases subtitle with
      | none => exact texts [("title", title)] (by simp)
      | some line => exact texts [("title", title), ("subtitle", line)] (by simp)
  | text content => exact texts [("content", content)] (by simp)
  | image url alt =>
      cases alt with
      | none => exact texts [("url", url)] (by simp)
      | some line => exact texts [("url", url), ("alt", line)] (by simp)
  | button label url => exact texts [("label", label), ("url", url)] (by simp)
  | spacer => exact texts [] (by simp)
  | footer line => exact texts [("text", line)] (by simp)
  | foreign => exact absurd rfl known

theorem regular_dataOrEmpty {data : Json} {depth : Nat} (regular : data.Regular depth)
    (deep : 1 ≤ depth) : (dataOrEmpty data).Regular depth := by
  cases data with
  | null => exact (regular_of_known (show Content.spacer.kind? ≠ none by decide)).mono deep
  | bool | number | string | array | object => exact regular

/-- Decoded content is of a known kind, or holds the data that it came from. -/
theorem known_or_data {typeName : String} {data : Json} {content : Content}
    (decoded : ofParts typeName data = .ok content) :
    content.kind? ≠ none ∨ content.toJson = dataOrEmpty data := by
  unfold ofParts at decoded
  split at decoded
  · rw [kind_of_ofKnown decoded]
    exact .inl nofun
  · cases decoded
    exact .inr rfl

end Content

/-! ## Blocks -/

namespace Block

def reread (block : Block) : Block := ⟨block.id, block.content.reread, block.style.reread⟩

variable {block : Block}

theorem toJson_reread (block : Block) : block.reread.toJson = block.toJson.reread := by
  change Json.object _ = Json.object _
  simp only [reread, Json.rereadMembers, Json.reread, Content.typeName_reread,
    Content.toJson_reread, StyleMap.toJson_reread]

theorem Storable.reread (storable : block.Storable) : block.reread.Storable :=
  ⟨storable.named, by
    change block.content.reread.kind? ≠ none
    rw [Content.kind?_reread]
    exact storable.known⟩

theorem regular_toJson {depth : Nat} (deep : 1 ≤ depth)
    (content : block.content.toJson.Regular depth) : block.toJson.Regular (depth + 1) := by
  refine Json.regular_object.2 ⟨by simp, ?_⟩
  simp only [List.forall_mem_cons, List.not_mem_nil, false_imp_iff, implies_true, and_true]
  exact ⟨⟨trivial, Nat.zero_le _⟩, ⟨trivial, Nat.zero_le _⟩, content,
    (StyleMap.regular_toJson block.style).mono deep⟩

/-- The data of a block is the value that was written for it. -/
theorem data_of_raw {source : Json} {raw : Raw}
    (decoded : rawFields.decode "RawBlock" source = .ok raw) :
    raw.data = .null ∨ raw.data ∈ (layerOfJson source).parts := by
  obtain ⟨_, _, built, written⟩ := Fields.built_of_decode decoded
  obtain ⟨_, style, first, rfl, _⟩ := Fields.build_and built
  obtain ⟨_, data, second, rfl, filled⟩ := Fields.build_and first
  obtain ⟨_, _, third, rfl, _⟩ := Fields.build_and second
  obtain ⟨_, _, none, rfl, _⟩ := Fields.build_and third
  cases none
  rcases Fields.build_defaulted filled with absent | ⟨part, there, read⟩
  · exact .inl absent
  · cases read
    exact .inr (written _ _ there)

theorem regular_of_part {source part : Json} {depth : Nat} (regular : source.Regular (depth + 1))
    (there : part ∈ (layerOfJson source).parts) : part.Regular depth := by
  cases source with
  | null | bool | number | string => cases there
  | array items => exact Json.regular_array.1 regular part there
  | object members =>
      obtain ⟨member, found, rfl⟩ := List.mem_map.1 there
      exact (Json.regular_object.1 regular).2 member found

/-- Decoding makes nothing deeper, and repeats no name. -/
theorem regular_of_decode {source : Json} {depth : Nat} (deep : 1 ≤ depth)
    (regular : source.Regular (depth + 1)) (decoded : Block.decode source = .ok block) :
    block.toJson.Regular (depth + 1) := by
  obtain ⟨raw, read, decoded⟩ := exists_of_bind decoded
  obtain ⟨content, parts, decoded⟩ := exists_of_bind decoded
  cases decoded
  have data : raw.data.Regular depth := by
    rcases data_of_raw read with null | there
    · rw [null]
      exact ⟨trivial, Nat.zero_le _⟩
    · exact regular_of_part regular there
  refine regular_toJson deep ?_
  rcases Content.known_or_data parts with known | same
  · exact (Content.regular_of_known known).mono deep
  · change content.toJson.Regular depth
    rw [same]
    exact Content.regular_dataOrEmpty data deep

end Block

namespace Blocks

variable {blocks : List Block}

/-- Blocks whose text is read back. -/
def Regular (blocks : List Block) : Prop :=
  (toJson blocks).Regular (Json.nestingLimit - 1)

theorem toJson_reread (blocks : List Block) :
    toJson (blocks.map Block.reread) = (toJson blocks).reread := by
  have each : (blocks.map Block.reread).map Block.toJson =
      Json.rereadItems (blocks.map Block.toJson) := by
    induction blocks with
    | nil => rfl
    | cons block rest ih => simp only [List.map_cons, Json.rereadItems, ih, Block.toJson_reread]
  exact congrArg Json.array each

theorem parse?_blocksText (regular : Regular blocks) :
    Json.parse? (Store.Row.blocksText blocks) = some (toJson (blocks.map Block.reread)) := by
  rw [toJson_reread]
  exact Json.parse?_compact regular (by decide)

/-- The text of regular blocks decodes to the blocks, reread. -/
theorem decode_blocksText (regular : Regular blocks) :
    decode (.string (Store.Row.blocksText blocks)) = .ok (blocks.map Block.reread) :=
  (decode_parsed (parse?_blocksText regular)).trans (decode_toJson _)

/-! ## Where blocks come from -/

theorem item_of_mem {items : List Json} (decoded : ofItems items = .ok blocks) {block : Block}
    (member : block ∈ blocks) : ∃ item ∈ items, Block.decode item = .ok block := by
  have each (items : List Json) (blocks : List Block)
      (decoded : (items.mapM fun item => Block.decode item) = .ok blocks)
      (member : block ∈ blocks) : ∃ item ∈ items, Block.decode item = .ok block := by
    induction items generalizing blocks with
    | nil =>
        cases decoded
        cases member
    | cons item rest ih =>
        rw [List.mapM_cons] at decoded
        obtain ⟨first, here, decoded⟩ := exists_of_bind decoded
        obtain ⟨others, later, decoded⟩ := exists_of_bind decoded
        cases decoded
        rcases List.mem_cons.1 member with rfl | among
        · exact ⟨item, List.mem_cons_self, here⟩
        · obtain ⟨source, there, found⟩ := ih others later among
          exact ⟨source, List.mem_cons_of_mem _ there, found⟩
  unfold ofItems at decoded
  split at decoded
  · rename_i found
    cases decoded
    exact each items _ found member
  · cases decoded

/-- Blocks from a text are regular, of unknown types included. -/
theorem regular_of_text {text : String} (decoded : decode (.string text) = .ok blocks) :
    Regular blocks := by
  unfold decode at decoded
  dsimp only at decoded
  split at decoded
  · cases decoded
  · rename_i items parsed
    have regular := Json.regular_array.1 (Json.regular_parse? parsed)
    refine Json.regular_array.2 ?_
    intro source member
    obtain ⟨block, there, rfl⟩ := List.mem_map.1 member
    obtain ⟨item, among, found⟩ := item_of_mem decoded there
    exact Block.regular_of_decode (by decide) (regular item among) found
  · cases decoded

theorem regular_of_storable (storable : Storable blocks) : Regular blocks := by
  have shallow : (toJson blocks).Regular 3 := by
    refine Json.regular_array.2 ?_
    intro source member
    obtain ⟨block, there, rfl⟩ := List.mem_map.1 member
    exact Block.regular_toJson (Nat.le_refl 1)
      (Content.regular_of_known (storable.each block there).known)
  exact shallow.mono (by decide)

theorem Storable.reread (storable : Storable blocks) : Storable (blocks.map Block.reread) := by
  refine ⟨?_, ?_⟩
  · intro block member
    obtain ⟨old, there, rfl⟩ := List.mem_map.1 member
    exact (storable.each old there).reread
  · simpa [Function.comp_def, Block.reread] using storable.distinct

end Blocks

/-! ## What comes back as it was -/

/-- Whether a scalar is no double. -/
def Scalar.Exact : Scalar → Prop
  | .number (.double _) => False
  | .number (.integer _ _) | .text _ | .bool _ => True

instance : DecidablePred Scalar.Exact
  | .number (.double _) => .isFalse id
  | .number (.integer _ _) | .text _ | .bool _ => .isTrue trivial

/-- Blocks without doubles in their styles. -/
def Blocks.Exact (blocks : List Block) : Prop :=
  ∀ block ∈ blocks, ∀ entry ∈ block.style.entries, entry.2.Exact

instance (blocks : List Block) : Decidable (Blocks.Exact blocks) :=
  inferInstanceAs (Decidable (∀ block ∈ blocks, ∀ entry ∈ block.style.entries, entry.2.Exact))

theorem Scalar.reread_eq {scalar : Scalar} (noDouble : scalar.Exact) : scalar.reread = scalar := by
  cases scalar with
  | text | bool => rfl
  | number value =>
      cases value with
      | double => exact noDouble.elim
      | integer value word => exact congrArg Scalar.number (Number.reread_integer word)

theorem StyleMap.reread_eq {style : StyleMap}
    (noDouble : ∀ entry ∈ style.entries, entry.2.Exact) : style.reread = style := by
  have same : style.entries.map (fun entry => (entry.1, entry.2.reread)) = style.entries := by
    conv_rhs => rw [← List.map_id style.entries]
    refine List.map_congr_left ?_
    intro entry member
    rw [Scalar.reread_eq (noDouble entry member)]
    rfl
  obtain ⟨entries, distinct⟩ := style
  simp only [reread, same]

theorem Content.reread_eq {content : Content} (known : content.kind? ≠ none) :
    content.reread = content := by
  cases content with
  | header | text | image | button | spacer | footer => rfl
  | foreign => exact absurd rfl known

/-- Blocks that can be stored, without doubles, are read back from text as they were. -/
theorem Blocks.reread_eq {blocks : List Block} (storable : Storable blocks)
    (noDouble : Exact blocks) : blocks.map Block.reread = blocks := by
  conv_rhs => rw [← List.map_id blocks]
  refine List.map_congr_left ?_
  intro block member
  rw [Block.reread, Content.reread_eq (storable.each block member).known,
    StyleMap.reread_eq (noDouble block member)]
  rfl

end BlockMail
