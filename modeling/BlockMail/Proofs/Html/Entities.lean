import BlockMail.Proofs.Html.Attributes
import BlockMail.Proofs.Html.Tags
import BlockMail.Proofs.Html.TidyText

/-!
# Entities

Replacing the entities one after the other is one scan that decodes each of them where it
stands: what is put in place of one is no part of another that is replaced later. So an
escaped text, which has no tag in it, is read back as it was.
-/

set_option autoImplicit false

namespace BlockMail.Html

open Text

/-! ## Replacing one pattern -/

theorem replaceFrom_length (pattern replacement passedOver rest : List Char) :
    replaceFrom pattern replacement passedOver.length (passedOver ++ rest) =
      replaceFrom pattern replacement 0 rest := by
  induction passedOver with
  | nil => rfl
  | cons char passedOver ih => exact ih

theorem replaceAll_front {pattern : List Char} (notEmpty : pattern ≠ [])
    (replacement after : List Char) :
    replaceAll pattern replacement (pattern ++ after) =
      replacement ++ replaceAll pattern replacement after := by
  obtain ⟨char, rest, rfl⟩ := List.exists_cons_of_ne_nil notEmpty
  have front : (char :: rest).isPrefixOf (char :: (rest ++ after)) = true :=
    List.isPrefixOf_iff_prefix.2 (List.prefix_append (char :: rest) after)
  rw [List.cons_append, replaceAll, replaceFrom, if_pos front, List.length_cons,
    Nat.add_one_sub_one, replaceFrom_length, replaceAll]

theorem replaceAll_cons {pattern rest : List Char} {char : Char}
    (other : ¬ pattern <+: char :: rest) (replacement : List Char) :
    replaceAll pattern replacement (char :: rest) =
      char :: replaceAll pattern replacement rest := by
  rw [replaceAll, replaceFrom, if_neg (mt List.isPrefixOf_iff_prefix.1 other), replaceAll]

/-! ## Entities one after the other -/

/-- The form of an entity: it begins with its only ampersand and ends with its only
semicolon. -/
def EntityForm (written : List Char) : Prop :=
  ∃ name, written = '&' :: (name ++ [';']) ∧ '&' ∉ name ∧ ';' ∉ name

/-- Each entity of a list stands for its character. -/
def EntityRule (listed : List (List Char × Char)) (written value : List Char) : Prop :=
  ∃ entity ∈ listed, written = entity.1 ∧ value = [entity.2]

/-- An entity can be replaced after others if none of their characters is part of it. -/
def Replaceable (earlier : List (List Char × Char)) (entity : List Char × Char) : Prop :=
  EntityForm entity.1 ∧ ∀ other ∈ earlier, other.1 ≠ entity.1 ∧ other.2 ∉ entity.1

section Replacing

variable {done : List (List Char × Char)} {entity : List Char × Char}
  {scan : List Char → List Char}

/-- A scan writes nothing that could be part of an entity without having read it there. -/
theorem prefix_of_scan (scans : Scans (EntityRule done) scan) {part rest : List Char}
    (foreign : ∀ other ∈ done, other.2 ∉ part) (front : part <+: scan rest) : part <+: rest := by
  induction part generalizing rest with
  | nil => exact List.nil_prefix
  | cons char part ih =>
      by_cases begins : Begins (EntityRule done) rest
      · obtain ⟨_, _, after, ⟨other, member, rfl, rfl⟩, rfl⟩ := begins
        rw [scans.mark ⟨other, member, rfl, rfl⟩, List.singleton_append,
          List.cons_prefix_cons] at front
        exact absurd (front.1 ▸ List.mem_cons_self) (foreign other member)
      · cases rest with
        | nil =>
            rw [scans.nil] at front
            cases List.prefix_nil.1 front
        | cons next rest =>
            rw [scans.pass begins, List.cons_prefix_cons] at front
            refine List.cons_prefix_cons.2 ⟨front.1, ih ?_ front.2⟩
            intro other member inside
            exact foreign other member (List.mem_cons_of_mem _ inside)

theorem entityForm_inj {written other after behind : List Char} (form : EntityForm written)
    (formToo : EntityForm other) (same : written ++ after = other ++ behind) :
    written = other := by
  obtain ⟨name, rfl, _, ends⟩ := form
  obtain ⟨title, rfl, _, endsToo⟩ := formToo
  simp only [List.cons_append, List.append_assoc, List.nil_append, List.cons.injEq,
    true_and] at same
  have parts := congrArg (splitAt ';') same
  rw [splitAt_append_cons ends, splitAt_append_cons endsToo] at parts
  rw [(List.cons.inj parts).1]

/-- Inside an entity that is not listed no listed one begins. -/
theorem passed_entity (forms : ∀ other ∈ done, EntityForm other.1)
    (replaceable : Replaceable done entity) (after : List Char) :
    Text.Passed (Begins (EntityRule done)) entity.1 after := by
  rintro late suffix notEmpty ⟨_, _, behind, ⟨other, member, rfl, rfl⟩, same⟩
  obtain ⟨form, others⟩ := replaceable
  have ⟨name, whole, single, _⟩ := form
  rw [whole] at suffix
  rcases List.suffix_cons_iff.1 suffix with all | inside
  · rw [all, ← whole] at same
    exact (others other member).1 (entityForm_inj form (forms other member) same).symm
  · -- Any other suffix begins with a character that is no ampersand.
    obtain ⟨title, shape, _⟩ := forms other member
    obtain ⟨char, rest, rfl⟩ := List.exists_cons_of_ne_nil notEmpty
    rw [shape, List.cons_append, List.cons_append] at same
    obtain ⟨rfl, _⟩ := List.cons.inj same
    have ampersand := inside.subset List.mem_cons_self
    simp [single] at ampersand

/-- Replacing one entity more in what a scan leaves is a scan for one entity more. -/
theorem scans_replaceAll (scans : Scans (EntityRule done) scan)
    (forms : ∀ other ∈ done, EntityForm other.1) (replaceable : Replaceable done entity) :
    Scans (EntityRule (done ++ [entity])) fun text =>
      replaceAll entity.1 [entity.2] (scan text) := by
  obtain ⟨form, others⟩ := replaceable
  have notEmpty : entity.1 ≠ [] := by
    obtain ⟨name, whole, _⟩ := form
    simp [whole]
  constructor
  · rw [scans.nil]
    rfl
  · rintro mark value ⟨listed, member, rfl, rfl⟩ after
    rcases List.mem_append.1 member with earlier | last
    · -- The character that an earlier entity became is passed over.
      have unread : ¬ entity.1 <+: listed.2 :: scan after := by
        intro front
        obtain ⟨first, tail, whole⟩ := List.exists_cons_of_ne_nil notEmpty
        rw [whole, List.cons_prefix_cons] at front
        apply (others listed earlier).2
        rw [whole, front.1]
        exact List.mem_cons_self
      rw [scans.mark ⟨listed, earlier, rfl, rfl⟩, List.singleton_append,
        replaceAll_cons unread, List.singleton_append]
    · cases List.mem_singleton.1 last
      rw [scans.passed (passed_entity forms ⟨form, others⟩ after), replaceAll_front notEmpty]
  · intro char rest unmarked
    have unlisted : ¬ Begins (EntityRule done) (char :: rest) := by
      rintro ⟨_, _, after, ⟨listed, member, rfl, rfl⟩, same⟩
      exact unmarked ⟨_, _, after, ⟨listed, List.mem_append_left _ member, rfl, rfl⟩, same⟩
    have unread : ¬ entity.1 <+: char :: scan rest := by
      rw [← scans.pass unlisted]
      intro front
      have foreign : ∀ other ∈ done, other.2 ∉ entity.1 :=
        fun other member => (others other member).2
      obtain ⟨after, whole⟩ := prefix_of_scan scans foreign front
      exact unmarked ⟨_, _, after, ⟨entity, by simp, rfl, rfl⟩, whole.symm⟩
    rw [scans.pass unlisted, replaceAll_cons unread]

/-- Entities that can be replaced one after the other. -/
def Orderly (listed : List (List Char × Char)) : Prop :=
  (∀ entity ∈ listed, EntityForm entity.1) ∧
    listed.Pairwise fun earlier later => earlier.1 ≠ later.1 ∧ earlier.2 ∉ later.1

theorem scans_foldl {rest : List (List Char × Char)} (scans : Scans (EntityRule done) scan)
    (orderly : Orderly (done ++ rest)) :
    Scans (EntityRule (done ++ rest)) fun text =>
      rest.foldl (fun text entity => replaceAll entity.1 [entity.2] text) (scan text) := by
  induction rest generalizing done scan with
  | nil =>
      rw [List.append_nil]
      exact scans
  | cons entity rest ih =>
      obtain ⟨forms, order⟩ := orderly
      have replaceable : Replaceable done entity := by
        refine ⟨forms entity (by simp), ?_⟩
        intro other member
        exact (List.pairwise_append.1 order).2.2 other member entity List.mem_cons_self
      have formsDone : ∀ other ∈ done, EntityForm other.1 :=
        fun other member => forms other (List.mem_append_left _ member)
      have next := scans_replaceAll scans formsDone replaceable
      rw [List.append_cons] at forms order ⊢
      exact ih next ⟨forms, order⟩

end Replacing

theorem orderly_entities : Orderly entities := by
  constructor
  · intro entity member
    refine ⟨entity.1.tail.dropLast, ?_⟩
    revert entity
    decide
  · decide

/-- Replacing the entities in turn decodes each of them where it stands. -/
theorem scans_decodeEntities : Scans (EntityRule entities) decodeEntities := by
  have unlisted : Scans (EntityRule []) id := by
    constructor
    · rfl
    · rintro mark value ⟨listed, member, _⟩
      cases member
    · intro char rest _
      rfl
  exact scans_foldl unlisted orderly_entities

/-! ## Escaped texts -/

theorem decodeEntities_escape (raw : List Char) :
    decodeEntities (raw.flatMap escapeChar) = raw := by
  induction raw with
  | nil => exact scans_decodeEntities.nil
  | cons char raw ih =>
      rw [List.flatMap_cons]
      rcases escapeChar_cases char with escaped | ⟨plain, same⟩
      · have listed : ∀ entity ∈ attributeEntities, (entity.2, entity.1) ∈ entities := by decide
        have rule : EntityRule entities (escapeChar char) [char] :=
          ⟨_, listed _ escaped, rfl, rfl⟩
        rw [scans_decodeEntities.mark rule, ih, List.singleton_append]
      · have unmarked : ¬ Begins (EntityRule entities) (char :: raw.flatMap escapeChar) := by
          rintro ⟨_, _, after, ⟨entity, member, rfl, rfl⟩, written⟩
          obtain ⟨name, shape, _⟩ := orderly_entities.1 entity member
          rw [shape] at written
          exact plain ('&', _) List.mem_cons_self (List.cons.inj written).1
        rw [same, List.singleton_append, scans_decodeEntities.pass unmarked, ih]

theorem stripTags_escape (raw : List Char) :
    stripTags (raw.flatMap escapeChar) = raw.flatMap escapeChar :=
  stripTags_of_absent (not_mem_escape (by decide) raw)

/-- The plain text of an escaped text is that text, tidied, whatever tags, quotation marks and
entities it has. So a text comes back exactly if it is tidy. -/
theorem escaped_text_reads_back (text : String) :
    (escapeAttribute text).toList = replacedInTurn attributeEntities text.toList ∧
    stripTags (escapeAttribute text).toList = (escapeAttribute text).toList ∧
    decodeEntities (escapeAttribute text).toList = text.toList ∧
    plainText (escapeAttribute text) = String.ofList (tidy text.toList) ∧
    (plainText (escapeAttribute text) = text ↔ Tidy text.toList) := by
  have escaped : (escapeAttribute text).toList = text.toList.flatMap escapeChar :=
    String.toList_ofList
  have read : plainText (escapeAttribute text) = String.ofList (tidy text.toList) := by
    rw [plainText, escaped, stripTags_escape, decodeEntities_escape]
  refine ⟨?_, ?_, ?_, read, ?_⟩
  · rw [escaped, escape_eq_replacedInTurn]
  · rw [escaped, stripTags_escape]
  · rw [escaped, decodeEntities_escape]
  · rw [read, ← tidy_eq_self, ← String.toList_inj, String.toList_ofList]

/-- Tags, quotation marks and what looks like entities, in a text with a blank line too much
and in one without. -/
theorem escaped_text_reads_back_of_markup :
    let text := "<b>\"&lt;\" & '&copy;'</b>\n\n&nbsp;&amp;lt;"
    Tidy text.toList ∧ plainText (escapeAttribute text) = text ∧
      plainText (escapeAttribute ("\n" ++ text)) = text := by
  intro text
  obtain ⟨_, _, _, _, returns⟩ := escaped_text_reads_back text
  obtain ⟨_, _, _, tidied, _⟩ := escaped_text_reads_back ("\n" ++ text)
  have tidy : Tidy text.toList := tidy_eq_self.1 (by decide +kernel)
  refine ⟨tidy, returns.2 tidy, ?_⟩
  rw [tidied]
  decide +kernel

end BlockMail.Html
