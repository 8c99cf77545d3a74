import BlockMail.Proofs.Json.Text
import BlockMail.Proofs.Template.Codec
import BlockMail.Proofs.Template.Patch

/-!
# One way to read a payload

Blocks that come as an array and as text are read alike, and so are the blocks of a
creation and of a save.
-/

set_option autoImplicit false

namespace BlockMail

namespace Blocks

/-- Text is parsed once: what a quoted text holds is not looked at. -/
theorem decode_quoted {text inner : String} (parsed : Json.parse? text = some (.string inner)) :
    decode (.string text) = .error (.notASequence "string") := by
  simp only [decode, parsed]
  rfl

theorem decodeValid_cases (payload : Json) :
    (∃ blocks, decode payload = .ok blocks ∧ validate blocks = .ok () ∧
      decodeValid payload = .ok blocks) ∨
    ∃ cause, decodeValid payload = .error cause := by
  unfold decodeValid
  cases decoded : decode payload with
  | error cause => exact .inr ⟨cause, rfl⟩
  | ok blocks =>
      cases valid : validate blocks with
      | error cause =>
          right
          refine ⟨cause, ?_⟩
          simp only [bind, Except.bind, valid]
      | ok _ =>
          left
          refine ⟨blocks, rfl, valid, ?_⟩
          simp only [bind, Except.bind, valid]
          rfl

end Blocks

theorem Json.parse?_compact_string (text : String) :
    parse? (compact (.string text)) = some (.string text) := by
  have regular : (Json.string text).Regular 0 := ⟨trivial, Nat.le_refl _⟩
  exact parse?_compact regular (by decide)

theorem NewDocument.toDocument_of_blocks {input : NewDocument} {payload : Json}
    (created : input.blocks = some payload) (id : DocumentId) (owner : UserId)
    (now : Time.Instant) :
    input.toDocument id owner now =
      (Blocks.decodeValid payload).map (input.document id owner now) := by
  rw [toDocument_eq]
  unfold chosenBlocks
  rw [created]

theorem DocumentPatch.toUpdate_of_blocks {patch : DocumentPatch} {payload : Json}
    (saved : patch.blocks = some payload) (present : payload.isNull = false) :
    patch.toUpdate =
      (Blocks.decodeValid payload).map fun blocks => patch.update (some blocks) := by
  have carried : patch.payload? = some payload := by
    unfold payload?
    rw [saved]
    cases payload with
    | null => cases present
    | bool | number | string | array | object => rfl
  rw [toUpdate_eq, carried]

/-- Every payload of blocks is read in one way: an array as the text it is written as, a
text by parsing it once, and a creation as a save, with the same blocks or the same
complaint. -/
theorem payload_read_alike :
    (∀ items, Json.parse? (Json.array items).compact = some (.array items) →
      Blocks.decode (.string (Json.array items).compact) = Blocks.decode (.array items)) ∧
      (∀ text inner, Json.parse? text = some (.string inner) →
        Blocks.decode (.string text) = .error (.notASequence "string")) ∧
      (∀ inner : String, Blocks.decode (.string (Json.string inner).compact) =
        .error (.notASequence "string")) ∧
      ∀ (payload : Json) (input : NewDocument) (patch : DocumentPatch) (id : DocumentId)
        (owner : UserId) (now : Time.Instant), payload.isNull = false →
        input.blocks = some payload → patch.blocks = some payload →
          (∃ blocks document update, Blocks.decode payload = .ok blocks ∧
            Blocks.validate blocks = .ok () ∧
            input.toDocument id owner now = .ok document ∧ patch.toUpdate = .ok update ∧
            document.blocks = blocks ∧ update.blocks = some blocks) ∨
          ∃ cause, Blocks.decodeValid payload = .error cause ∧
            input.toDocument id owner now = .error cause ∧ patch.toUpdate = .error cause := by
  refine ⟨fun _ => Blocks.decode_parsed, fun _ _ => Blocks.decode_quoted, ?_, ?_⟩
  · intro inner
    exact Blocks.decode_quoted (Json.parse?_compact_string inner)
  · intro payload input patch id owner now present created saved
    rw [input.toDocument_of_blocks created, patch.toUpdate_of_blocks saved present]
    rcases Blocks.decodeValid_cases payload with ⟨blocks, decoded, valid, read⟩ | ⟨cause, read⟩
    · left
      rw [read]
      exact ⟨blocks, _, _, decoded, valid, rfl, rfl, rfl, rfl⟩
    · right
      rw [read]
      exact ⟨cause, rfl, rfl, rfl⟩

/-- A payload of one footer, as it is and as text; text in quotes; and a payload of a kind
that is refused. -/
theorem payload_read_alike_of_farewell :
    let payload : Json := .array [.object [("id", .string "f"), ("type", .string "footer"),
      ("data", .object [("text", .string "Bye")])]]
    let farewell : Block := ⟨"f", .footer "Bye", .empty⟩
    let noon : Time.Instant := ⟨⟨2024, 5, 1, by decide⟩, 720, 0, 0, by decide⟩
    let create (payload : Json) := NewDocument.toDocument
      ⟨none, none, none, none, some payload, none⟩ ⟨"d1"⟩ ⟨"ada"⟩ noon
    let save (payload : Json) := DocumentPatch.toUpdate
      ⟨none, none, none, none, some payload, none⟩
    Json.parse? payload.compact = some payload ∧
      Blocks.decode (.string payload.compact) = .ok [farewell] ∧
      Json.parse? "\"[]\"" = some (.string "[]") ∧
      Blocks.decode (.string "\"[]\"") = .error (.notASequence "string") ∧
      (∃ document update, create payload = .ok document ∧ save payload = .ok update ∧
        document.blocks = [farewell] ∧ update.blocks = some [farewell]) ∧
      ∃ cause, create (.bool true) = .error cause ∧ save (.bool true) = .error cause := by
  intro payload farewell noon create save
  obtain ⟨asText, quoted, _, carried⟩ := payload_read_alike
  have regular : payload.Regular 3 :=
    ⟨by simp [payload, Json.Distinct, Json.DistinctItems, Json.DistinctMembers], by decide⟩
  have parsed : Json.parse? payload.compact = some payload :=
    Json.parse?_compact regular (by decide)
  have decoded : Blocks.decode payload = .ok [farewell] := rfl
  have inQuotes : Json.parse? "\"[]\"" = some (.string "[]") := rfl
  refine ⟨parsed, (asText _ parsed).trans decoded, inQuotes, quoted _ _ inQuotes, ?_⟩
  have accepted := carried payload ⟨none, none, none, none, some payload, none⟩
    ⟨none, none, none, none, some payload, none⟩ ⟨"d1"⟩ ⟨"ada"⟩ noon rfl rfl rfl
  have refused := carried (.bool true) ⟨none, none, none, none, some (.bool true), none⟩
    ⟨none, none, none, none, some (.bool true), none⟩ ⟨"d1"⟩ ⟨"ada"⟩ noon rfl rfl rfl
  constructor
  · obtain ⟨_, document, update, read, _, made, saved, same, set⟩ | ⟨_, failed, _⟩ := accepted
    · cases decoded.symm.trans read
      exact ⟨document, update, made, saved, same, set⟩
    · cases failed
  · obtain ⟨_, _, _, read, _⟩ | ⟨cause, _, made, saved⟩ := refused
    · cases read
    · exact ⟨cause, made, saved⟩

end BlockMail
