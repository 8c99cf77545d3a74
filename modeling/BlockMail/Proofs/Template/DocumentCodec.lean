import BlockMail.Proofs.Template.Codec
import BlockMail.Proofs.Time.LenientText
import BlockMail.Template.Document

/-!
# Documents as JSON

A document comes back from its record and from its written form, with the time to the
nanosecond.
-/

set_option autoImplicit false

namespace BlockMail

open Decode

theorem Time.Instant.decode_toJson (instant : Time.Instant) :
    Time.Instant.decode instant.toJson = .ok instant := by
  have read := Time.readLenient_text instant
  unfold Time.Instant.decode Time.Instant.toJson
  simp only [Carrier.layer, layerOfJson, read]

theorem DocumentId.decode_toJson (id : DocumentId) : DocumentId.decode id.toJson = .ok id :=
  rfl

theorem UserId.decode_toJson (user : UserId) : UserId.decode user.toJson = .ok user :=
  rfl

theorem Visibility.decode_shown {Source : Type} [Carrier Source] {carry : Json → Source}
    (shows : Shows carry) (visibility : Visibility) :
    Visibility.decode (carry visibility.toJson) = .ok visibility := by
  have named : ofName? visibility.name = some visibility := by
    cases visibility <;> decide +kernel
  exact shows.choice named _

theorem Blocks.decodeArray_toJson (blocks : List Block) :
    Blocks.decodeArray (Blocks.toJson blocks) = .ok blocks :=
  Blocks.mapM_toJson blocks

namespace Document

theorem ofRecord_toRecord (document : Document) :
    ofRecord document.toRecord = .ok document := by
  unfold ofRecord toRecord
  rw [Blocks.decode_toJson]
  rfl

theorem decode_toJson (document : Document) :
    Document.decode document.toJson = .ok document := by
  have takes : (fields : Fields Json Document).Takes _ document :=
    ((((((((((Fields.takes_none Document.mk).and
      (Fields.takes_single document.id.decode_toJson)).and
      (Fields.takes_single document.owner.decode_toJson)).and
      (Fields.takes_single (shows_json.text document.name))).and
      (Fields.takes_single (shows_json.text document.category))).and
      (Fields.takes_single (shows_json.text document.subject))).and
      (Fields.takes_optional fun present _ =>
        shows_json.nullable_some rfl (shows_json.text present))).and
      (Fields.takes_single (document.visibility.decode_shown shows_json))).and
      (Fields.takes_optional fun present _ =>
        shows_json.nullable_some rfl present.decode_toJson)).and
      (Fields.takes_single (Blocks.decodeArray_toJson document.blocks))).and
      (Fields.takes_single document.updatedAt.decode_toJson)
  have decoded : fields.decode "Document" document.toJson = .ok document := by
    refine takes.decodeAs
      [("id", _), ("owner", _), ("name", _), ("category", _), ("subject", _),
        ("description", _), ("visibility", _), ("forkedFrom", _), ("blocks", _),
        ("updatedAt", _)] rfl ?_ _ _
    obtain ⟨_, _, _, _, _, description, _, forkedFrom, _, _⟩ := document
    cases description <;> cases forkedFrom <;> rfl
  exact decoded

end Document

end BlockMail
