import Mathlib.Data.List.Nodup
import BlockMail.Proofs.Html.Entities

/-!
# Entities in one pass

One pass from the left reads an entity whole where it stands, puts its character in its place
and never looks at that character again. Replacing the entities one after the other comes to
the same for every text, so nothing is decoded twice.
-/

set_option autoImplicit false

namespace BlockMail.Html

open Text

/-- Decodes listed entities from the left, after passing over the first `skip` characters. -/
def decodePass (listed : List (List Char × Char)) : (skip : Nat) → List Char → List Char
  | _, [] => []
  | skip + 1, _ :: rest => decodePass listed skip rest
  | 0, char :: rest =>
      match listed.find? fun entity => entity.1.isPrefixOf (char :: rest) with
      | some entity => entity.2 :: decodePass listed (entity.1.length - 1) rest
      | none => char :: decodePass listed 0 rest

section

variable {listed : List (List Char × Char)}

theorem decodePass_length (passedOver rest : List Char) :
    decodePass listed passedOver.length (passedOver ++ rest) = decodePass listed 0 rest := by
  induction passedOver with
  | nil => rfl
  | cons char passedOver ih => exact ih

/-- Entities that can be replaced one after the other are told apart by how they are written. -/
theorem Orderly.eq_of_written (orderly : Orderly listed) {entity other : List Char × Char}
    (member : entity ∈ listed) (memberToo : other ∈ listed) (same : entity.1 = other.1) :
    entity = other := by
  have distinct : (listed.map Prod.fst).Nodup :=
    List.pairwise_map.2 (orderly.2.imp fun apart => apart.1)
  exact List.inj_on_of_nodup_map distinct member memberToo same

theorem Orderly.unambiguous (orderly : Orderly listed) : Unambiguous (EntityRule listed) := by
  constructor
  · rintro mark value ⟨entity, member, rfl, rfl⟩
    obtain ⟨name, whole, _⟩ := orderly.1 entity member
    simp [whole]
  · rintro mark value other meaning after behind ⟨entity, member, rfl, rfl⟩
      ⟨found, memberToo, rfl, rfl⟩ same
    have written := entityForm_inj (orderly.1 entity member) (orderly.1 found memberToo) same
    rw [orderly.eq_of_written member memberToo written]
    exact ⟨rfl, rfl⟩

/-- The entity that stands at the front of a text is found, as no other can stand there. -/
theorem Orderly.find?_front (orderly : Orderly listed) {entity : List Char × Char}
    (member : entity ∈ listed) (after : List Char) :
    listed.find? (fun other => other.1.isPrefixOf (entity.1 ++ after)) = some entity := by
  cases there : listed.find? fun other => other.1.isPrefixOf (entity.1 ++ after) with
  | none =>
      have itself := List.isPrefixOf_iff_prefix.2 (List.prefix_append entity.1 after)
      exact absurd itself (List.find?_eq_none.1 there entity member)
  | some other =>
      have front : other.1.isPrefixOf (entity.1 ++ after) = true := by
        simpa using List.find?_some there
      obtain ⟨behind, same⟩ := List.isPrefixOf_iff_prefix.1 front
      have memberToo := List.mem_of_find?_eq_some there
      have written := entityForm_inj (orderly.1 other memberToo) (orderly.1 entity member) same
      rw [orderly.eq_of_written memberToo member written]

theorem Orderly.scans_decodePass (orderly : Orderly listed) :
    Scans (EntityRule listed) (decodePass listed 0) := by
  constructor
  · rfl
  · rintro mark value ⟨entity, member, rfl, rfl⟩ after
    have found := orderly.find?_front member after
    obtain ⟨char, rest, whole⟩ :=
      List.exists_cons_of_ne_nil (orderly.unambiguous.notEmpty ⟨entity, member, rfl, rfl⟩)
    rw [whole, List.cons_append] at found ⊢
    rw [decodePass, found]
    simp only [whole, List.length_cons, Nat.add_one_sub_one, decodePass_length,
      List.singleton_append]
  · intro char rest unmarked
    have nothing : listed.find? (fun other => other.1.isPrefixOf (char :: rest)) = none := by
      rw [List.find?_eq_none]
      intro other member front
      obtain ⟨behind, same⟩ := List.isPrefixOf_iff_prefix.1 front
      exact unmarked ⟨_, _, behind, ⟨other, member, rfl, rfl⟩, same.symm⟩
    rw [decodePass, nothing]

/-- No entity begins in a stretch without an ampersand. -/
theorem Orderly.passed_of_absent (orderly : Orderly listed) {stretch : List Char}
    (absent : '&' ∉ stretch) (after : List Char) :
    Text.Passed (Begins (EntityRule listed)) stretch after := by
  rintro late suffix notEmpty ⟨_, _, behind, ⟨entity, member, rfl, rfl⟩, same⟩
  obtain ⟨name, shape, _⟩ := orderly.1 entity member
  obtain ⟨char, rest, rfl⟩ := List.exists_cons_of_ne_nil notEmpty
  rw [shape, List.cons_append, List.cons_append] at same
  obtain ⟨rfl, _⟩ := List.cons.inj same
  exact absent (suffix.subset List.mem_cons_self)

end

/-- The ampersand that an entity stands for begins no other entity. -/
theorem decodeEntities_ampersand {after : List Char} (absent : '&' ∉ after) :
    decodeEntities ("&amp;".toList ++ after) = '&' :: after := by
  have rule : EntityRule entities "&amp;".toList ['&'] :=
    ⟨("&amp;".toList, '&'), by decide, rfl, rfl⟩
  have kept := scans_decodeEntities.passed (orderly_entities.passed_of_absent absent [])
  rw [scans_decodeEntities.nil, List.append_nil] at kept
  rw [scans_decodeEntities.mark rule, kept, List.singleton_append]

/-- Replacing the entities one after the other decodes a text as one pass from the left does.
The text is cut in one way at its leftmost entities, each of which gives way to its character
while every stretch between them is kept; no entity is left in a stretch. So what a decoded
ampersand stands in front of is not decoded again. -/
theorem decodeEntities_in_one_pass :
    (∀ text, decodeEntities text = decodePass entities 0 text) ∧
    (∀ text, ∃ parts : Parts,
      parts.source = text ∧ parts.LeftmostFirst (EntityRule entities) ∧
      (∀ other : Parts, other.source = text → other.LeftmostFirst (EntityRule entities) →
        other = parts) ∧
      decodeEntities text = parts.replaced ∧
      (∀ entity ∈ parts.marks, EntityRule entities entity.1 entity.2) ∧
      ∀ stretch ∈ parts.stretches, ∀ mark value, EntityRule entities mark value →
        ¬ mark <:+: stretch) ∧
    ∀ letters : List Char, (∀ char ∈ letters, char.isAlpha = true) →
      decodeEntities ("&amp;".toList ++ letters ++ [';']) = '&' :: (letters ++ [';']) := by
  have unambiguous := orderly_entities.unambiguous
  refine ⟨?_, ?_, ?_⟩
  · exact scans_decodeEntities.unique orderly_entities.scans_decodePass unambiguous
  · intro text
    obtain ⟨parts, rfl, leftmost⟩ := Parts.exists_leftmostFirst unambiguous text
    refine ⟨parts, rfl, leftmost, ?_, scans_decodeEntities.replaced leftmost, leftmost.marked,
      leftmost.not_within unambiguous⟩
    intro other same another
    exact another.unique unambiguous leftmost same
  · intro letters alphabetic
    have absent : '&' ∉ letters ++ [';'] := by
      rw [List.mem_append, not_or]
      refine ⟨fun member => ?_, by decide⟩
      exact absurd (alphabetic '&' member) (by decide)
    rw [List.append_assoc, decodeEntities_ampersand absent]

/-- Entities beside and inside what looks like others. -/
theorem decodeEntities_in_one_pass_of_lookalikes :
    let text := "&amp;lt;&&lt;amp;&am&amp;p;&quot".toList
    let letters := "quot".toList
    decodeEntities text = "&lt;&<amp;&am&p;&quot".toList ∧
      (∀ char ∈ letters, char.isAlpha = true) ∧
      decodeEntities ("&amp;".toList ++ letters ++ [';']) = "&quot;".toList := by
  intro text letters
  obtain ⟨pass, _, once⟩ := decodeEntities_in_one_pass
  have alphabetic : ∀ char ∈ letters, char.isAlpha = true :=
    List.all_eq_true.1 (by decide : letters.all Char.isAlpha = true)
  refine ⟨?_, alphabetic, once letters alphabetic⟩
  rw [pass]
  decide +kernel

end BlockMail.Html
