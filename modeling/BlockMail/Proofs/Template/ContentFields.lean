import BlockMail.Proofs.Keyed.Order
import BlockMail.Proofs.Template.Codec

/-!
# Fields of content

Content of a known kind is a record of texts. Setting one of its fields writes that text
and no other; a field that the kind does not declare is passed over. Content of an unknown
type takes any field.
-/

set_option autoImplicit false

namespace BlockMail

open Decode

/-! ## Members that no field goes by -/

namespace Decode.Fields

variable {Record : Type} {fields : Fields Json Record} {key : String}

theorem index?_eq_none {names : List String} (named : fields.names = names.map ([·])) :
    fields.index? key = .none ↔ key ∉ names := by
  simp [index?, named, List.forall_mem_ne]

theorem checkMembers_append_unread (unread : fields.index? key = .none) (value : Json)
    (members : List (String × Json)) (seen : List Nat) :
    fields.checkMembers seen (members ++ [(key, value)]) = fields.checkMembers seen members := by
  induction members generalizing seen with
  | nil =>
      simp only [List.nil_append, checkMembers, unread]
      rfl
  | cons member rest ih =>
      obtain ⟨name, source⟩ := member
      simp only [List.cons_append, checkMembers]
      cases fields.index? name <;> simp only [ih]

theorem written_append_unread (unread : fields.index? key = .none) (value : Json)
    (members : List (String × Json)) :
    fields.written (members ++ [(key, value)]) = fields.written members := by
  funext index
  unfold written
  have passed : (fields.index? key == some index) = false := by rw [unread]; rfl
  rw [List.find?_append, List.find?_singleton, passed]
  simp

/-- A new member that no field goes by makes no difference. -/
theorem decode_put_unread (unread : fields.index? key = .none) (value : Json)
    {members : List (String × Json)} (absent : key ∉ members.map Prod.fst) (title : String) :
    fields.decode title (.object (Keyed.put key value members)) =
      fields.decode title (.object members) := by
  rw [Keyed.put_of_absent absent]
  unfold decode decodeAs
  simp only [Carrier.layer, layerOfJson, checkMembers_append_unread unread,
    written_append_unread unread]

end Decode.Fields

/-! ## Declared fields -/

/-- The fields that content of a kind declares, and whether each of them may be cleared. -/
def BlockKind.fields : BlockKind → List (String × Bool)
  | .header => [("title", false), ("subtitle", true)]
  | .text => [("content", false)]
  | .image => [("url", false), ("alt", true)]
  | .button => [("label", false), ("url", false)]
  | .spacer => []
  | .footer => [("text", false)]

namespace Content

/-- What a JSON value sets a field to, if it may: a text, or nothing where the field can be
cleared. -/
def setting? (clearable : Bool) : Json → Option (Option String)
  | .string words => some (some words)
  | .null => if clearable then some none else none
  | _ => none

/-- The declared fields of content and what they hold. -/
def values : Content → List (String × Option String)
  | .header title subtitle => [("title", some title), ("subtitle", subtitle)]
  | .text content => [("content", some content)]
  | .image url alt => [("url", some url), ("alt", alt)]
  | .button label url => [("label", some label), ("url", some url)]
  | .spacer => []
  | .footer line => [("text", some line)]
  | .foreign _ => []

variable {content other : Content} {kind : BlockKind} {key : String} {clearable : Bool}
  {value : Json}

theorem names_values (known : content.kind? = some kind) :
    content.values.map Prod.fst = kind.fields.map Prod.fst := by
  cases content <;> cases known <;> rfl

/-- Content of a known kind is its values. -/
theorem eq_of_values (known : content.kind? = some kind) (alsoKnown : other.kind? = some kind)
    (same : content.values = other.values) : content = other := by
  cases content <;> cases known <;> cases other <;> cases alsoKnown <;>
    simp_all [values]

/-- Decoding the data of a known kind, once the kind is found again. -/
theorem setField_of_kind (known : content.kind? = some kind) (key : String) (value : Json) :
    content.setField key value =
      ofKnown kind (.object (Keyed.put key value content.dataMembers)) := by
  unfold setField ofParts
  split
  · rename_i found
    rw [typeName_of_kind known, BlockKind.ofName?_name] at found
    cases found
    rfl
  · rename_i absent
    rw [typeName_of_kind known, BlockKind.ofName?_name] at absent
    cases absent

/-- The names of the members that are written are those of declared fields. -/
theorem mem_fields_of_dataMembers (known : content.kind? = some kind) {name : String}
    (member : name ∈ content.dataMembers.map Prod.fst) : name ∈ kind.fields.map Prod.fst := by
  cases content with
  | header title subtitle =>
      cases known
      cases subtitle <;> simp_all [dataMembers, toJson, Json.memberIfSome, BlockKind.fields]
  | image url alt =>
      cases known
      cases alt <;> simp_all [dataMembers, toJson, Json.memberIfSome, BlockKind.fields]
  | text | button | footer =>
      cases known
      exact member
  | spacer => cases member
  | foreign => cases known

/-- A member under another name than those of the declared fields is passed over. -/
theorem ofKnown_put_undeclared (undeclared : key ∉ kind.fields.map Prod.fst) (value : Json)
    {members : List (String × Json)} (absent : key ∉ members.map Prod.fst) :
    ofKnown kind (.object (Keyed.put key value members)) = ofKnown kind (.object members) := by
  have unread {fields : Fields Json Content}
      (named : fields.names = (kind.fields.map Prod.fst).map ([·])) :
      fields.index? key = .none :=
    (Fields.index?_eq_none named).2 undeclared
  cases kind with
  | header => exact Fields.decode_put_unread (unread rfl) value absent _
  | text => exact Fields.decode_put_unread (unread rfl) value absent _
  | image => exact Fields.decode_put_unread (unread rfl) value absent _
  | button => exact Fields.decode_put_unread (unread rfl) value absent _
  | spacer => rfl
  | footer => exact Fields.decode_put_unread (unread rfl) value absent _

theorem toJson_of_kind (known : content.kind? = some kind) :
    content.toJson = .object content.dataMembers := by
  cases content with
  | foreign => cases known
  | header | text | image | button | spacer | footer => rfl

theorem setField_of_undeclared (known : content.kind? = some kind)
    (undeclared : key ∉ kind.fields.map Prod.fst) (value : Json) :
    content.setField key value = .ok content := by
  have absent : key ∉ content.dataMembers.map Prod.fst :=
    fun member => undeclared (mem_fields_of_dataMembers known member)
  rw [setField_of_kind known, ofKnown_put_undeclared undeclared value absent,
    ← toJson_of_kind known, ofKnown_toJson content kind known]

/-- What comes of setting a declared field to a value that sets it to `new`, or to one that
it does not take. -/
def FieldSet (content : Content) (kind : BlockKind) (key : String) (value : Json) :
    (new : Option (Option String)) → Prop
  | some new => ∃ edited, content.setField key value = .ok edited ∧
      edited.kind? = some kind ∧ edited.values = Keyed.put key new content.values
  | none => content.setField key value = .error (.wrongType (.ofJson value) "a string")

theorem fieldSet_of_declared (known : content.kind? = some kind)
    (declared : (key, clearable) ∈ kind.fields) (value : Json) :
    content.FieldSet kind key value (setting? clearable value) := by
  -- The data has a name for each of the fields, so a field is read from the value at once.
  cases content with
  | header title subtitle =>
      cases known
      simp only [BlockKind.fields, List.mem_cons, List.not_mem_nil, or_false] at declared
      rcases declared with ⟨⟨⟩⟩ | ⟨⟨⟩⟩
      · cases value <;> cases subtitle <;> first | rfl | exact ⟨_, rfl, rfl, rfl⟩
      · cases value <;> cases subtitle <;> first | rfl | exact ⟨_, rfl, rfl, rfl⟩
  | image url alt =>
      cases known
      simp only [BlockKind.fields, List.mem_cons, List.not_mem_nil, or_false] at declared
      rcases declared with ⟨⟨⟩⟩ | ⟨⟨⟩⟩
      · cases value <;> cases alt <;> first | rfl | exact ⟨_, rfl, rfl, rfl⟩
      · cases value <;> cases alt <;> first | rfl | exact ⟨_, rfl, rfl, rfl⟩
  | button label url =>
      cases known
      simp only [BlockKind.fields, List.mem_cons, List.not_mem_nil, or_false] at declared
      rcases declared with ⟨⟨⟩⟩ | ⟨⟨⟩⟩
      · cases value <;> first | rfl | exact ⟨_, rfl, rfl, rfl⟩
      · cases value <;> first | rfl | exact ⟨_, rfl, rfl, rfl⟩
  | text | footer =>
      cases known
      cases List.mem_singleton.1 declared
      cases value <;> first | rfl | exact ⟨_, rfl, rfl, rfl⟩
  | spacer =>
      cases known
      cases declared
  | foreign => cases known

/-- Content of an unknown type has the key in its data afterwards, whatever the data was. -/
theorem setField_of_foreign (foreign : ForeignContent) (key : String) (value : Json) :
    (Content.foreign foreign).setField key value = .ok (.foreign
      { foreign with
        data := .object (Keyed.put key value (Content.foreign foreign).dataMembers)
        present := rfl }) := by
  unfold setField ofParts
  split
  · rename_i found
    cases found.symm.trans foreign.foreign
  · rfl

theorem typeName_of_setField {edited : Content} (set : content.setField key value = .ok edited) :
    edited.typeName = content.typeName := by
  cases kind : content.kind? with
  | some known =>
      rw [typeName_of_kind kind, typeName_of_kind (kind_of_setField kind set)]
  | none =>
      cases content with
      | foreign foreign =>
          rw [setField_of_foreign] at set
          cases set
          rfl
      | _ => cases kind

end Content

end BlockMail
