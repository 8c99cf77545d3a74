import BlockMail.Proofs.Decode.Fieldwise
import BlockMail.Template.Blocks

/-!
# Blocks as JSON

Written blocks decode to themselves, content of unknown types included, from any carrier
that shows what was written.
-/

set_option autoImplicit false

namespace BlockMail

open Decode

/-! ## Values -/

namespace ByArrival

variable {Value : Type}

/-- Writing pairs with distinct keys one after the other puts them in order. -/
theorem entries_ofList {pairs : List (String × Value)}
    (distinct : (pairs.map Prod.fst).Nodup) : (ofList pairs).entries = pairs := by
  have appended (rest : List (String × Value)) (map : ByArrival Value)
      (distinct : ((map.entries ++ rest).map Prod.fst).Nodup) :
      (rest.foldl (fun map pair => map.insert pair.1 pair.2) map).entries =
        map.entries ++ rest := by
    induction rest generalizing map with
    | nil => simp
    | cons pair rest ih =>
        have absent : pair.1 ∉ map.entries.map Prod.fst := by
          intro member
          rw [List.map_append, List.nodup_append] at distinct
          exact distinct.2.2 _ member _ (by simp) rfl
        have inserted : (map.insert pair.1 pair.2).entries = map.entries ++ [pair] :=
          Keyed.put_of_absent absent
        rw [List.foldl_cons, ih (map.insert pair.1 pair.2), inserted,
          List.append_assoc, List.singleton_append]
        rw [inserted, List.append_assoc, List.singleton_append]
        exact distinct
  exact appended pairs empty (by simpa [empty] using distinct)

theorem ofList_entries (map : ByArrival Value) : ofList map.entries = map := by
  have same := entries_ofList map.distinct
  cases map
  cases written : ofList _
  simp_all

end ByArrival

section Shown

variable {Source : Type} [Carrier Source] {carry : Json → Source} (shows : Shows carry)

include shows

theorem Scalar.decode_shown (scalar : Scalar) :
    Scalar.decode (carry scalar.toJson) = .ok scalar := by
  unfold Scalar.decode
  rw [shows.any]
  simp only [bind, Except.bind, ofJson?_toJson]
  rfl

theorem StyleMap.decode_shown (style : StyleMap) :
    StyleMap.decode (carry style.toJson) = .ok style := by
  have mapped : Decode.map Scalar.decode (carry style.toJson) = .ok style.entries :=
    shows.map fun entry _ => Scalar.decode_shown shows entry.2
  simp only [StyleMap.decode, mapped, Except.map, ByArrival.ofList_entries]

end Shown

/-! ## Records -/

/-- The values in a layer. -/
def Decode.Layer.parts {Source : Type} : Layer Source → List Source
  | .array items => items
  | .object members _ => members.map Prod.snd
  | .broken | .null | .bool _ | .number _ | .string _ => []

/-- A step that succeeded did so after the one before it. -/
theorem exists_of_bind {Cause Value Next : Type} {first : Except Cause Value}
    {onward : Value → Except Cause Next} {result : Next}
    (succeeded : (first >>= onward) = .ok result) :
    ∃ value, first = .ok value ∧ onward value = .ok result := by
  cases first with
  | error cause => cases succeeded
  | ok value => exact ⟨value, rfl, succeeded⟩

theorem exists_of_map {Cause Value Next : Type} {onward : Value → Next}
    {result : Except Cause Value} {next : Next} (mapped : result.map onward = .ok next) :
    ∃ value, result = .ok value ∧ onward value = next := by
  cases result with
  | error cause => cases mapped
  | ok value => exact ⟨value, rfl, Except.ok.inj mapped⟩

theorem error_of_map {Cause Value Next : Type} {onward : Value → Next}
    {result : Except Cause Value} {cause : Cause} (failed : result.map onward = .error cause) :
    result = .error cause := by
  cases result with
  | error other => exact congrArg Except.error (Except.error.inj failed)
  | ok value => cases failed

namespace Decode.Fields

variable {Source Record Next : Type}

/-- A decoded record was built from values that were written for its fields. -/
theorem built_of_decode [Carrier Source] {fields : Fields Source Record} {name : String}
    {source : Source} {record : Record} (decoded : fields.decode name source = .ok record) :
    ∃ missing values, fields.build missing values = .ok record ∧
      ∀ index part, values index = some part → part ∈ (Carrier.layer source).parts := by
  unfold decode decodeAs at decoded
  split at decoded
  · rename_i members complete shown
    obtain ⟨_, _, decoded⟩ := exists_of_bind decoded
    split at decoded
    · refine ⟨_, _, decoded, ?_⟩
      intro index part written
      obtain ⟨member, found, rfl⟩ := Option.map_eq_some_iff.1 written
      rw [shown]
      exact List.mem_map_of_mem (List.mem_of_find?_eq_some found)
    · cases decoded
  · rename_i items shown
    obtain ⟨found, built, decoded⟩ := exists_of_bind decoded
    dsimp only at decoded
    split at decoded
    · obtain ⟨_, impossible, _⟩ := exists_of_bind decoded
      cases impossible
    · cases decoded
      refine ⟨_, _, built, ?_⟩
      intro index part written
      rw [shown]
      exact List.mem_of_getElem? written
  · cases decoded

theorem build_and {first : Fields Source (Next → Record)} {second : Fields Source Next}
    {missing : Nat → String → DecodeError} {values : Nat → Option Source}
    {record : Record} (built : (first.and second).build missing values = .ok record) :
    ∃ make next, first.build missing values = .ok make ∧ record = make next ∧
      second.build (fun index => missing (index + first.names.length))
        (fun index => values (index + first.names.length)) = .ok next := by
  obtain ⟨make, made, built⟩ := exists_of_bind built
  obtain ⟨next, other, built⟩ := exists_of_bind built
  cases built
  exact ⟨make, next, made, rfl, other⟩

/-- What a field with a default decodes to: its default, or a written value. -/
theorem build_defaulted {name : String} {default record : Record}
    {decode : Decoder Source Record} {missing : Nat → String → DecodeError}
    {values : Nat → Option Source}
    (built : (defaulted name default decode).build missing values = .ok record) :
    record = default ∨ ∃ part, values 0 = some part ∧ decode part = .ok record := by
  cases written : values 0 with
  | none =>
      simp only [defaulted, single, written, Except.ok.injEq] at built
      exact .inl built.symm
  | some part =>
      simp only [defaulted, single, written] at built
      exact .inr ⟨part, rfl, built⟩

end Decode.Fields

/-! ## Content -/

namespace Content

theorem typeName_of_kind {content : Content} {kind : BlockKind}
    (known : content.kind? = some kind) : content.typeName = kind.name := by
  cases content <;> cases known <;> rfl

theorem kind_of_ofKnown {kind : BlockKind} {data : Json} {content : Content}
    (decoded : ofKnown kind data = .ok content) : content.kind? = some kind := by
  cases kind with
  | header =>
      obtain ⟨_, _, built, _⟩ := Fields.built_of_decode decoded
      obtain ⟨_, _, title, rfl, _⟩ := Fields.build_and built
      obtain ⟨_, _, made, rfl, _⟩ := Fields.build_and title
      cases made
      rfl
  | text =>
      obtain ⟨_, _, built, _⟩ := Fields.built_of_decode decoded
      obtain ⟨_, _, made, rfl, _⟩ := Fields.build_and built
      cases made
      rfl
  | image =>
      obtain ⟨_, _, built, _⟩ := Fields.built_of_decode decoded
      obtain ⟨_, _, url, rfl, _⟩ := Fields.build_and built
      obtain ⟨_, _, made, rfl, _⟩ := Fields.build_and url
      cases made
      rfl
  | button =>
      obtain ⟨_, _, built, _⟩ := Fields.built_of_decode decoded
      obtain ⟨_, _, label, rfl, _⟩ := Fields.build_and built
      obtain ⟨_, _, made, rfl, _⟩ := Fields.build_and label
      cases made
      rfl
  | spacer =>
      cases decoded
      rfl
  | footer =>
      obtain ⟨_, _, built, _⟩ := Fields.built_of_decode decoded
      obtain ⟨_, _, made, rfl, _⟩ := Fields.build_and built
      cases made
      rfl

/-- Setting a field of content of a known kind keeps the kind. -/
theorem kind_of_setField {content edited : Content} {key : String} {value : Json}
    {kind : BlockKind} (known : content.kind? = some kind)
    (set : content.setField key value = .ok edited) : edited.kind? = some kind := by
  have named := BlockKind.ofName?_name kind
  rw [← typeName_of_kind known] at named
  unfold setField ofParts at set
  split at set
  · rename_i found
    rw [named] at found
    cases found
    exact kind_of_ofKnown set
  · rename_i absent
    rw [named] at absent
    cases absent

theorem ofKnown_toJson (content : Content) (kind : BlockKind)
    (known : content.kind? = some kind) : ofKnown kind content.toJson = .ok content := by
  cases content with
  | header title subtitle =>
      cases known
      cases subtitle <;> rfl
  | text content =>
      cases known
      rfl
  | image url alt =>
      cases known
      cases alt <;> rfl
  | button label url =>
      cases known
      rfl
  | spacer =>
      cases known
      rfl
  | footer line =>
      cases known
      rfl
  | foreign content => cases known

theorem ofParts_toJson (content : Content) :
    ofParts content.typeName content.toJson = .ok content := by
  cases kind : content.kind? with
  | some known =>
      have named := typeName_of_kind kind
      have data : dataOrEmpty content.toJson = content.toJson := by
        cases content with
        | foreign => cases kind
        | header | text | image | button | spacer | footer => rfl
      unfold ofParts
      split
      · rename_i found
        rw [named, BlockKind.ofName?_name] at found
        cases found
        rw [data, ofKnown_toJson content _ kind]
      · rename_i absent
        rw [named, BlockKind.ofName?_name] at absent
        cases absent
  | none =>
      cases content with
      | header | text | image | button | spacer | footer => cases kind
      | foreign content =>
          obtain ⟨name, data, foreign, present⟩ := content
          have same : dataOrEmpty data = data := by
            cases data with
            | null => cases present
            | bool | number | string | array | object => rfl
          unfold ofParts
          split
          · rename_i found
            rw [show (Content.foreign ⟨name, data, foreign, present⟩).typeName = name
              from rfl, foreign] at found
            cases found
          · simp only [typeName, toJson, same]

end Content

/-! ## Blocks -/

theorem Block.decode_shown {Source : Type} [Carrier Source] {carry : Json → Source}
    (shows : Shows carry) (block : Block) : Block.decode (carry block.toJson) = .ok block := by
  have takes : (Block.rawFields : Fields Source Block.Raw).Takes
      [some (carry (.string block.id)), some (carry (.string block.content.typeName)),
        some (carry block.content.toJson), some (carry block.style.toJson)]
      ⟨block.id, block.content.typeName, block.content.toJson, block.style⟩ :=
    ((((Fields.takes_none _).and (Fields.takes_single (shows.text _))).and
      (Fields.takes_single (shows.text _))).and
      (Fields.takes_single (shows.any _))).and
      (Fields.takes_single (StyleMap.decode_shown shows block.style))
  have raw : Block.rawFields.decode "RawBlock" (carry block.toJson) =
      .ok ⟨block.id, block.content.typeName, block.content.toJson, block.style⟩ :=
    takes.decodeAs [("id", _), ("type", _), ("data", _), ("style", _)] rfl
      ((shows.layer _).trans rfl) _ _
  simp only [Block.decode, raw, Block.ofRaw, bind, Except.bind,
    Content.ofParts_toJson]
  rfl

theorem Block.decode_toJson (block : Block) : Block.decode block.toJson = .ok block :=
  Block.decode_shown shows_json block

theorem Blocks.mapM_toJson (blocks : List Block) :
    (blocks.map Block.toJson).mapM (fun item => Block.decode item) = .ok blocks := by
  induction blocks with
  | nil => rfl
  | cons block rest ih =>
      rw [List.map_cons, List.mapM_cons, Block.decode_toJson, ih]
      rfl

/-- Text stands for the array that it parses to. -/
theorem Blocks.decode_parsed {text : String} {items : List Json}
    (parsed : Json.parse? text = some (.array items)) :
    Blocks.decode (.string text) = Blocks.decode (.array items) := by
  simp only [Blocks.decode, parsed]

theorem Blocks.decode_toJson (blocks : List Block) :
    Blocks.decode (Blocks.toJson blocks) = .ok blocks := by
  simp only [Blocks.toJson, Blocks.decode, Blocks.ofItems, Blocks.mapM_toJson]

end BlockMail
