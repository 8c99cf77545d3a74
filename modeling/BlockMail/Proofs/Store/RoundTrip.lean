import BlockMail.Proofs.Decode.Complete
import BlockMail.Proofs.Store.Entry
import BlockMail.Proofs.Template.DocumentCodec

/-!
# What is written comes back

Blocks and documents after one trip through their written form, and a document after a stay
in the memory store. A block of an unknown type is written as it was given.
-/

set_option autoImplicit false

namespace BlockMail

open Decode

/-! ## The fields of a record -/

namespace Json

/-- The value of a field of a record: of an object by its name, of an array by its place. -/
def field? (place : Nat) (name : String) : Json → Option Json
  | .object members => Keyed.lookup name members
  | .array items => items[place]?
  | _ => none

end Json

namespace Decode.Fields

variable {Record : Type} {fields : Fields Json Record} {names : List String}

theorem GoBy.written_eq (proper : fields.GoBy names) (members : List (String × Json)) :
    fields.written members =
      fun index => names[index]?.bind fun name => Json.field? index name (.object members) := by
  funext index
  unfold written
  cases named : names[index]? with
  | none =>
      have nowhere : members.find? (fun member => fields.index? member.1 == some index) =
          .none := by
        rw [List.find?_eq_none]
        intro member _ found
        have here := proper.index?_eq_some.1 (eq_of_beq found)
        rw [named] at here
        cases here
      rw [nowhere]
      rfl
  | some name =>
      have same : (fun member : String × Json => fields.index? member.1 == some index) =
          fun member => member.1 == name := by
        funext member
        rw [Bool.eq_iff_iff, beq_iff_eq, beq_iff_eq, proper.index?_eq_some, named,
          Option.some.injEq, eq_comm]
      rw [same]
      exact (Keyed.lookup_eq_find? name members).symm

/-- A decoded record was built from the values of its fields. -/
theorem GoBy.built (proper : fields.GoBy names) {title : String} {source : Json}
    {record : Record} (decoded : fields.decode title source = .ok record) :
    ∃ missing, fields.build missing
      (fun index => names[index]?.bind fun name => source.field? index name) = .ok record := by
  unfold decode decodeAs at decoded
  cases source with
  | object members =>
      obtain ⟨_, _, built⟩ := exists_of_bind decoded
      rw [proper.written_eq] at built
      exact ⟨_, built⟩
  | array items =>
      obtain ⟨found, built, within⟩ := exists_of_bind decoded
      dsimp only at within
      split at within
      · obtain ⟨_, impossible, _⟩ := exists_of_bind within
        cases impossible
      · rename_i short
        cases within
        rw [proper.single, List.length_map, Nat.not_lt] at short
        -- There is no item behind the last field, so the places are those of the names.
        have placed : (fun index => items[index]?) =
            fun index => names[index]?.bind fun name =>
              Json.field? index name (.array items) := by
          funext index
          cases named : names[index]? with
          | none =>
              have beyond := Nat.le_trans short (List.getElem?_eq_none_iff.1 named)
              rw [List.getElem?_eq_none beyond]
              rfl
          | some name => rfl
        rw [placed] at built
        exact ⟨_, built⟩
  | null | bool | number | string => cases decoded

theorem decode_of_single {decode : Decoder Json Record}
    {absent : DecodeError → Except DecodeError Record} {missing : Nat → String → DecodeError}
    {values : Nat → Option Json} {part : Json} {record : Record}
    (written : values 0 = some part)
    (built : (single names decode absent).build missing values = .ok record) :
    decode part = .ok record := by
  simp only [single, written] at built
  exact built

end Decode.Fields

/-! ## Blocks as given -/

theorem Scalar.toJson_of_decode {source : Json} {scalar : Scalar}
    (decoded : Scalar.decode source = .ok scalar) : scalar.toJson = source := by
  cases source with
  | bool | number | string =>
      cases decoded
      rfl
  | null | array | object => cases decoded

theorem Scalar.toJson_of_members {members : List (String × Json)}
    {entries : List (String × Scalar)}
    (decoded : Decode.members Scalar.decode members = .ok entries) :
    entries.map (fun entry => (entry.1, entry.2.toJson)) = members := by
  induction members generalizing entries with
  | nil =>
      cases decoded
      rfl
  | cons member rest ih =>
      obtain ⟨scalar, here, decoded⟩ := exists_of_bind decoded
      obtain ⟨others, there, decoded⟩ := exists_of_bind decoded
      cases decoded
      rw [List.map_cons, ih there, toJson_of_decode here]

theorem StyleMap.toJson_of_decode {source : Json} {style : StyleMap}
    (decoded : StyleMap.decode source = .ok style)
    (distinct : ∀ members, source = .object members → (members.map Prod.fst).Nodup) :
    style.toJson = source := by
  obtain ⟨entries, mapped, rfl⟩ := exists_of_map decoded
  cases source with
  | object members =>
      obtain ⟨values, read, mapped⟩ := exists_of_bind mapped
      cases mapped
      have same := Scalar.toJson_of_members read
      -- The names are those that were given, so none of them overwrites another.
      have keys : entries.map Prod.fst = members.map Prod.fst := by
        rw [← same, List.map_map]
        rfl
      have kept : (ByArrival.ofList entries).entries = entries :=
        ByArrival.entries_ofList (keys ▸ distinct members rfl)
      unfold StyleMap.toJson scalarsToJson
      rw [kept]
      exact congrArg Json.object same
  | null | bool | number | string | array => cases mapped

namespace Block

theorem goBy_rawFields :
    (rawFields : Fields Json Raw).GoBy ["id", "type", "data", "style"] :=
  ⟨rfl, by decide⟩

/-- What a block with all its fields was decoded from. -/
theorem raw_of_decode {source id data style : Json} {name : String} {raw : Raw}
    (decoded : rawFields.decode "RawBlock" source = .ok raw)
    (identifier : source.field? 0 "id" = some id)
    (type : source.field? 1 "type" = some (.string name))
    (content : source.field? 2 "data" = some data)
    (attributes : source.field? 3 "style" = some style) :
    .string raw.id = id ∧ raw.typeName = name ∧ raw.data = data ∧
      StyleMap.decode style = .ok raw.style := by
  obtain ⟨_, built⟩ := goBy_rawFields.built decoded
  obtain ⟨_, _, three, rfl, fourth⟩ := Fields.build_and built
  obtain ⟨_, _, two, rfl, third⟩ := Fields.build_and three
  obtain ⟨_, _, one, rfl, second⟩ := Fields.build_and two
  obtain ⟨_, _, nothing, rfl, first⟩ := Fields.build_and one
  cases nothing
  have first := Fields.decode_of_single identifier first
  have second := Fields.decode_of_single type second
  have third := Fields.decode_of_single content third
  have fourth := Fields.decode_of_single attributes fourth
  cases second
  cases third
  refine ⟨?_, rfl, rfl, fourth⟩
  cases id with
  | string =>
    cases first
    rfl
  | null | bool | number | array | object => cases first

/-- A block of an unknown type is written with the values it was decoded from. -/
theorem toJson_of_unknown {source id data style : Json} {name : String} {block : Block}
    (decoded : Block.decode source = .ok block) (unknown : BlockKind.ofName? name = none)
    (identifier : source.field? 0 "id" = some id)
    (type : source.field? 1 "type" = some (.string name))
    (content : source.field? 2 "data" = some data)
    (attributes : source.field? 3 "style" = some style)
    (distinct : ∀ members, style = .object members → (members.map Prod.fst).Nodup) :
    block.toJson = .object
      [("id", id), ("type", .string name), ("data", Content.dataOrEmpty data),
        ("style", style)] := by
  obtain ⟨raw, read, decoded⟩ := exists_of_bind decoded
  obtain ⟨rfl, rfl, rfl, styled⟩ := raw_of_decode read identifier type content attributes
  obtain ⟨kept, made, decoded⟩ := exists_of_bind decoded
  cases decoded
  have foreign : kept.typeName = raw.typeName ∧ kept.toJson = Content.dataOrEmpty raw.data := by
    unfold Content.ofParts at made
    split at made
    · rename_i known
      rw [unknown] at known
      cases known
    · cases made
      exact ⟨rfl, rfl⟩
  unfold Block.toJson
  rw [foreign.1, foreign.2, StyleMap.toJson_of_decode styled distinct]

end Block

/-! ## Round trips -/

theorem Store.MemoryStore.get?_of_insert {store : MemoryStore} {document : Document}
    (new : store.get? document.id = none) :
    ∃ after, store.insert document = .ok after ∧
      after.get? document.id = some document.toRecord := by
  refine ⟨store.put document.toRecord, ?_, ?_⟩
  · unfold insert
    rw [new]
    rfl
  · rw [get?_put]
    exact if_pos rfl

/-- Blocks and documents come back from their written form, and documents from the memory
store as well. A block with all its fields is written as it was given if its type is
unknown; its style has each name once. -/
theorem decoded_comes_back :
    (∀ source block, Block.decode source = .ok block →
      Block.decode block.toJson = .ok block ∧
        (Block.decode block.toJson).map Block.toJson = .ok block.toJson ∧
        ∀ id name data style, BlockKind.ofName? name = none →
          Json.field? 0 "id" source = some id →
          Json.field? 1 "type" source = some (.string name) →
          Json.field? 2 "data" source = some data →
          Json.field? 3 "style" source = some style →
          (∀ members, style = .object members → (members.map Prod.fst).Nodup) →
            block.toJson = .object
              [("id", id), ("type", .string name), ("data", Content.dataOrEmpty data),
                ("style", style)]) ∧
      (∀ document : Document, Document.ofRecord document.toRecord = .ok document) ∧
      (∀ (store : Store.MemoryStore) (document : Document), store.get? document.id = none →
        ∃ after, store.insert document = .ok after ∧
          (after.get? document.id).map Document.ofRecord = some (.ok document)) ∧
      ∀ (source : Json) (document : Document), Document.decode source = .ok document →
        Document.decode document.toJson = .ok document := by
  refine ⟨?_, Document.ofRecord_toRecord, ?_, ?_⟩
  · intro source block decoded
    have back := block.decode_toJson
    refine ⟨back, ?_, ?_⟩
    · rw [back]
      rfl
    · intro id name data style unknown identifier type content attributes distinct
      exact Block.toJson_of_unknown decoded unknown identifier type content attributes distinct
  · intro store document new
    obtain ⟨after, inserted, found⟩ := Store.MemoryStore.get?_of_insert new
    refine ⟨after, inserted, ?_⟩
    rw [found, Option.map_some, document.ofRecord_toRecord]
  · intro _ document _
    exact document.decode_toJson

/-- A block of an unknown type with its members out of order, in a mail that is stored. -/
theorem decoded_comes_back_of_carousel :
    let style : Json := .object
      [("speed", .ofNat 3), ("loop", .bool true), ("align", .string "left")]
    let source : Json := .object
      [("type", .string "carousel"), ("data", .null), ("style", style), ("id", .string "b1")]
    let block : Block := ⟨"b1", .foreign ⟨"carousel", .emptyObject, by decide, rfl⟩,
      ⟨[("speed", .number (.integer 3 (by decide))), ("loop", .bool true), ("align", .text "left")],
        by decide⟩⟩
    let noon : Time.Instant := ⟨⟨2024, 5, 1, by decide⟩, 720, 0, 1001, by decide⟩
    let document : Document := ⟨⟨"d1"⟩, ⟨"ada"⟩, "Pictures", "News", "Hi", none, .everyone,
      some ⟨"d0"⟩, [block], noon⟩
    Block.decode source = .ok block ∧ Block.decode block.toJson = .ok block ∧
      block.toJson = .object
        [("id", .string "b1"), ("type", .string "carousel"), ("data", .emptyObject),
          ("style", style)] ∧
      (∃ after, Store.MemoryStore.empty.insert document = .ok after ∧
        (after.get? document.id).map Document.ofRecord = some (.ok document)) ∧
      Document.decode document.toJson = .ok document := by
  intro style source block noon document
  have decoded : Block.decode source = .ok block := rfl
  obtain ⟨blocks, _, stored, documents⟩ := decoded_comes_back
  obtain ⟨back, _, written⟩ := blocks source block decoded
  refine ⟨decoded, back, ?_, stored .empty document rfl, ?_⟩
  · refine written _ "carousel" .null style (by decide) rfl rfl rfl rfl ?_
    intro members same
    rw [← Json.object.inj same]
    decide
  · exact documents document.toJson document document.decode_toJson

end BlockMail
