import BlockMail.Proofs.Json.Text

/-!
# Values read from texts

Whatever text a value is read from, its objects name no member twice, and it nests only so
deep.
-/

set_option autoImplicit false

namespace BlockMail.Json

mutual

theorem regular_toJson? : ∀ {draft : Draft} {depth : Nat} {value : Json},
    draft.toJson? (depth + 1) = some value → value.Regular depth
  | .broken, _, _, made => nomatch made
  | .null, _, _, made | .bool _, _, _, made => by
      cases made
      exact ⟨trivial, Nat.zero_le _⟩
  | .number written, _, _, made => by
      obtain ⟨number, rfl, rfl⟩ := Option.map_eq_some_iff.1 made
      exact ⟨trivial, Nat.zero_le _⟩
  | .string _, _, _, made => by
      obtain ⟨_, _, rfl⟩ := Option.map_eq_some_iff.1 made
      exact ⟨trivial, Nat.zero_le _⟩
  | .array items, 0, _, made => nomatch made
  | .array items, depth + 1, _, made => by
      rw [Draft.toJson?, if_neg (by omega)] at made
      obtain ⟨values, found, rfl⟩ := Option.map_eq_some_iff.1 made
      exact regular_array.2 (regular_itemsToJson? found)
  | .object members, 0, _, made => nomatch made
  | .object members, depth + 1, _, made => by
      rw [Draft.toJson?, if_neg (by omega)] at made
      obtain ⟨values, found, rfl⟩ := Option.map_eq_some_iff.1 made
      exact regular_object.2 (regular_membersToJson? (by simp) (by simp) found)

theorem regular_itemsToJson? : ∀ {items : List Draft} {depth : Nat} {values : List Json},
    Draft.itemsToJson? (depth + 1) items = some values →
      ∀ value ∈ values, value.Regular depth
  | [], _, _, made => by
      cases made
      exact nofun
  | item :: rest, depth, _, made => by
      simp only [Draft.itemsToJson?, Option.bind_eq_bind, Option.bind_eq_some_iff] at made
      obtain ⟨value, first, values, others, made⟩ := made
      cases made
      exact List.forall_mem_cons.2
        ⟨regular_toJson? first, regular_itemsToJson? others⟩

theorem regular_membersToJson? : ∀ {members : List (Option String × Draft)} {depth : Nat}
    {before values : List (String × Json)},
    (before.map Prod.fst).Nodup →
    (∀ member ∈ before, member.2.Regular depth) →
    Draft.membersToJson? (depth + 1) before members = some values →
      (values.map Prod.fst).Nodup ∧ ∀ member ∈ values, member.2.Regular depth
  | [], _, _, _, distinct, start, made => by
      cases made
      exact ⟨distinct, start⟩
  | (name, draft) :: rest, depth, before, _, distinct, start, made => by
      simp only [Draft.membersToJson?, Option.bind_eq_bind, Option.bind_eq_some_iff] at made
      obtain ⟨name, _, value, first, others⟩ := made
      -- A name that comes again replaces the earlier member, so names stay distinct.
      refine regular_membersToJson? (Keyed.nodup_put value distinct) ?_ others
      intro member there
      rcases Keyed.mem_put there with rfl | kept
      · exact regular_toJson? first
      · exact start member kept

end

/-- A value that is read from a text is regular. -/
theorem regular_parse? {text : String} {value : Json} (found : parse? text = some value) :
    value.Regular (nestingLimit - 1) := by
  unfold parse? parseWithin? at found
  cases read : Draft.read text with
  | mk draft rest =>
      rw [read] at found
      dsimp only at found
      split at found
      · exact regular_toJson? found
      · cases found

end BlockMail.Json
