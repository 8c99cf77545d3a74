import BlockMail.Proofs.Decode.Complete
import BlockMail.Proofs.Template.Codec
import BlockMail.Template.Scalar

/-!
# Contexts as written

Which drafts decode as values for placeholders: objects of strings, numbers and booleans,
and `null` where values may be left out.
-/

set_option autoImplicit false

namespace BlockMail

open Decode

def Scalar.draft : Scalar → Json.Draft
  | .text value => .string (some value)
  | .number value => .number (some value)
  | .bool value => .bool value

theorem Scalar.decode_eq_ok {draft : Json.Draft} {depth : Nat} {scalar : Scalar} :
    Scalar.decode (Reading.mk draft depth) = .ok scalar ↔ draft = scalar.draft := by
  constructor
  · intro decoded
    obtain ⟨value, read, decoded⟩ := exists_of_bind decoded
    have whole : draft.toJson? depth = some value := by
      unfold any Carrier.whole at read
      dsimp only [instCarrierReading] at read
      split at read
      · rename_i found
        rw [found, Except.ok.inj read]
      · cases read
    have simple : ofJson? value = some scalar := by
      split at decoded
      · rename_i found
        rw [found, Except.ok.inj decoded]
      · cases decoded
    cases draft with
    | broken => cases whole
    | null =>
        cases whole
        cases simple
    | bool value =>
        cases whole
        cases simple
        rfl
    | number value | string value =>
        cases value <;> cases whole
        cases simple
        rfl
    | array parts | object parts =>
        -- A nested value may have a value, but not that of a scalar.
        simp only [Json.Draft.toJson?] at whole
        split at whole
        · cases whole
        · obtain ⟨_, _, rfl⟩ := Option.map_eq_some_iff.1 whole
          cases simple
  · rintro rfl
    cases scalar <;> rfl

/-- A scalar for each key, as written. -/
def scalarsDraft (entries : List (String × Scalar)) : Json.Draft :=
  .object (entries.map fun entry => (some entry.1, entry.2.draft))

theorem members_scalar {depth : Nat} {members : List (Option String × Json.Draft)}
    {entries : List (String × Scalar)} :
    (Decode.members Scalar.decode (namedMembers depth members).1 = .ok entries ∧
      (namedMembers depth members).2 = true) ↔
      members = entries.map fun entry => (some entry.1, entry.2.draft) := by
  induction members generalizing entries with
  | nil =>
      constructor
      · rintro ⟨decoded, _⟩
        cases decoded
        rfl
      · intro written
        rw [List.map_eq_nil_iff.1 written.symm]
        exact ⟨rfl, rfl⟩
  | cons member rest ih =>
      obtain ⟨name, draft⟩ := member
      cases name with
      | none =>
          constructor
          · rintro ⟨_, complete⟩
            cases complete
          · intro written
            cases entries <;> cases written
      | some name =>
          constructor
          · rintro ⟨decoded, complete⟩
            obtain ⟨scalar, here, decoded⟩ := exists_of_bind decoded
            obtain ⟨later, others, decoded⟩ := exists_of_bind decoded
            cases decoded
            rw [List.map_cons, ← ih.1 ⟨others, complete⟩, Scalar.decode_eq_ok.1 here]
          · intro written
            cases entries with
            | nil => cases written
            | cons entry later =>
                cases written
                obtain ⟨others, complete⟩ := (@ih later).2 rfl
                refine ⟨?_, complete⟩
                simp only [namedMembers, Decode.members, Scalar.decode_eq_ok.2 rfl, others]
                rfl

theorem Context.decode_eq_ok {draft : Json.Draft} {depth : Nat} (deep : 1 < depth)
    {context : Context} :
    Context.decode (Reading.mk draft depth) = .ok context ↔
      ∃ entries, draft = scalarsDraft entries ∧ context = .ofList entries := by
  constructor
  · intro decoded
    obtain ⟨entries, mapped, rfl⟩ := exists_of_map decoded
    refine ⟨entries, ?_, rfl⟩
    unfold Decode.map at mapped
    cases draft with
    | object members =>
        simp only [Carrier.layer, layerOfReading, if_neg (Nat.not_le.2 deep)] at mapped
        obtain ⟨values, decoded, complete⟩ := exists_of_bind mapped
        split at complete
        · rename_i all
          cases complete
          rw [members_scalar.1 ⟨decoded, all⟩, scalarsDraft]
        · cases complete
    | array items =>
        simp only [Carrier.layer, layerOfReading, if_neg (Nat.not_le.2 deep)] at mapped
        cases mapped
    | number value | string value => cases value <;> cases mapped
    | broken | null | bool _ => cases mapped
  · rintro ⟨entries, rfl, rfl⟩
    obtain ⟨decoded, complete⟩ := (@members_scalar (depth - 1) _ entries).2 rfl
    unfold Context.decode Decode.map scalarsDraft
    simp only [Carrier.layer, layerOfReading, if_neg (Nat.not_le.2 deep), decoded, complete]
    rfl

/-- The values that a draft stands for in a request: those of an object of scalars, the
last one for a key, and none for `null`. -/
inductive Context.Given : Json.Draft → Option Context → Prop where
  | nothing : Given .null none
  | values (entries : List (String × Scalar)) :
      Given (scalarsDraft entries) (some (.ofList entries))

theorem layer_eq_null {draft : Json.Draft} {depth : Nat}
    (nothing : Carrier.layer (Reading.mk draft depth) = .null) : draft = .null := by
  cases draft with
  | null => rfl
  | broken | bool _ => cases nothing
  | number value | string value => cases value <;> cases nothing
  | array parts | object parts =>
      simp only [Carrier.layer, layerOfReading] at nothing
      split at nothing <;> cases nothing

theorem Context.nullable_eq_ok {draft : Json.Draft} {depth : Nat} (deep : 1 < depth)
    {values : Option Context} :
    nullable Context.decode (Reading.mk draft depth) = .ok values ↔
      Context.Given draft values := by
  constructor
  · intro decoded
    unfold nullable at decoded
    split at decoded
    · rename_i nothing
      cases decoded
      cases layer_eq_null nothing
      exact .nothing
    · obtain ⟨context, found, rfl⟩ := exists_of_map decoded
      obtain ⟨entries, rfl, rfl⟩ := (Context.decode_eq_ok deep).1 found
      exact .values entries
  · intro given
    cases given with
    | nothing => rfl
    | values entries =>
        have decoded := (Context.decode_eq_ok deep).2 ⟨entries, rfl, rfl⟩
        unfold nullable
        split
        · rename_i nothing
          cases layer_eq_null nothing
        · rw [decoded]
          rfl

end BlockMail
