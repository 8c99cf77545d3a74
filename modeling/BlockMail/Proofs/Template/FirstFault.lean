import BlockMail.Proofs.Template.Validity

/-!
# The fault that is reported

Blocks are checked in order against the blocks before them. A list that cannot be stored is
refused for the first block that cannot stand behind those before it, and of several faults of
that block the first counts: no identifier, one that was met before, a type that is not known.
-/

set_option autoImplicit false

namespace BlockMail.Blocks

/-- What keeps a block from standing behind others. -/
def faultBehind? (before : List Block) (block : Block) : Option BlocksError :=
  if block.id = "" then some (.emptyId before.length)
  else if block.id ∈ before.map Block.id then some (.duplicateId block.id)
  else if block.kind? = none then some (.unknownType block.content.typeName)
  else none

theorem faultBehind?_eq_none {before : List Block} {block : Block} :
    faultBehind? before block = none ↔ block.Storable ∧ block.id ∉ before.map Block.id := by
  unfold faultBehind?
  constructor
  · intro sound
    split_ifs at sound with unnamed repeated unknown
    exact ⟨⟨unnamed, unknown⟩, repeated⟩
  · rintro ⟨⟨named, known⟩, fresh⟩
    rw [if_neg named, if_neg fresh, if_neg known]

theorem storable_concat {before : List Block} {block : Block} :
    Storable (before ++ [block]) ↔ Storable before ∧ faultBehind? before block = none := by
  rw [faultBehind?_eq_none]
  constructor
  · intro storable
    have apart := storable.distinct
    rw [List.map_append, List.map_singleton, List.nodup_append] at apart
    refine ⟨storable.of_sublist (List.sublist_append_left _ _), ?_, ?_⟩
    · exact storable.each block (by simp)
    · exact fun member => apart.2.2 _ member _ (List.mem_singleton_self _) rfl
  · rintro ⟨storable, here, fresh⟩
    refine ⟨?_, ?_⟩
    · intro other member
      rcases List.mem_append.1 member with earlier | last
      · exact storable.each other earlier
      · rwa [List.mem_singleton.1 last]
    · rw [List.map_append, List.map_singleton]
      refine List.nodup_append.2 ⟨storable.distinct, by simp, ?_⟩
      rintro id member last single rfl
      exact fresh (List.mem_singleton.1 single ▸ member)

/-- One block is checked against the identifiers of the blocks before it. -/
theorem validateFrom_block {before rest : List Block} {block : Block} {seen : List String}
    (met : ∀ id, id ∈ seen ↔ id ∈ before.map Block.id) :
    validateFrom before.length seen (block :: rest) =
      match faultBehind? before block with
      | some cause => .error cause
      | none => validateFrom (before ++ [block]).length (block.id :: seen) rest := by
  unfold faultBehind?
  simp only [validateFrom, String.isEmpty_iff, met, List.length_append, List.length_singleton]
  split_ifs with unnamed repeated unknown
  · rfl
  · rfl
  · cases shown : block.content <;>
      simp [Block.kind?, Content.kind?, Content.typeName, shown] at unknown ⊢
  · cases shown : block.content <;>
      simp [Block.kind?, Content.kind?, shown] at unknown ⊢

/-- The blocks that were passed over could be stored, and the next could not stand behind
them. -/
theorem validateFrom_eq_error {before rest : List Block} {seen : List String}
    {cause : BlocksError} (met : ∀ id, id ∈ seen ↔ id ∈ before.map Block.id)
    (storable : Storable before) :
    validateFrom before.length seen rest = .error cause ↔
      ∃ passed block after, rest = passed ++ block :: after ∧ Storable (before ++ passed) ∧
        faultBehind? (before ++ passed) block = some cause := by
  induction rest generalizing before seen with
  | nil => simp [validateFrom]
  | cons block rest ih =>
      rw [validateFrom_block met]
      cases fault : faultBehind? before block with
      | some found =>
          constructor
          · rintro ⟨⟩
            exact ⟨[], block, rest, rfl, by simpa using storable, by simpa using fault⟩
          · rintro ⟨passed, other, after, same, sound, faulty⟩
            cases passed with
            | nil =>
                obtain ⟨rfl, rfl⟩ := List.cons.inj same
                rw [List.append_nil, fault] at faulty
                exact congrArg Except.error (Option.some.inj faulty)
            | cons first passed =>
                obtain ⟨rfl, rfl⟩ := List.cons.inj same
                rw [List.append_cons] at sound
                have front := sound.of_sublist (List.sublist_append_left _ _)
                cases fault.symm.trans (storable_concat.1 front).2
      | none =>
          have longer := storable_concat.2 ⟨storable, fault⟩
          have metToo : ∀ id, id ∈ block.id :: seen ↔ id ∈ (before ++ [block]).map Block.id := by
            intro id
            simp [met, or_comm]
          rw [ih metToo longer]
          constructor
          · rintro ⟨passed, other, after, rfl, sound, faulty⟩
            refine ⟨block :: passed, other, after, rfl, ?_⟩
            rw [List.append_cons]
            exact ⟨sound, faulty⟩
          · rintro ⟨passed, other, after, same, sound, faulty⟩
            cases passed with
            | nil =>
                obtain ⟨rfl, rfl⟩ := List.cons.inj same
                rw [List.append_nil, fault] at faulty
                cases faulty
            | cons first passed =>
                obtain ⟨rfl, rfl⟩ := List.cons.inj same
                rw [List.append_cons] at sound faulty
                exact ⟨passed, other, after, rfl, sound, faulty⟩

theorem validate_eq_error {blocks : List Block} {cause : BlocksError} :
    validate blocks = .error cause ↔
      ∃ before block after, blocks = before ++ block :: after ∧ Storable before ∧
        faultBehind? before block = some cause := by
  have unseen : ∀ id, id ∈ ([] : List String) ↔ id ∈ ([] : List Block).map Block.id := by simp
  exact validateFrom_eq_error unseen storable_nil

/-- Every block of a list that can be stored can stand behind those before it. -/
theorem Storable.faultBehind?_take {blocks : List Block} (storable : Storable blocks)
    {index : Nat} {block : Block} (found : blocks[index]? = some block) :
    faultBehind? (blocks.take index) block = none := by
  have front := storable.of_sublist (List.take_sublist (index + 1) blocks)
  rw [List.take_add_one, found, Option.toList_some] at front
  exact (storable_concat.1 front).2

/-- A list is accepted exactly if its identifiers are distinct and not empty and its types are
known. A list that is refused is refused for the first block that cannot stand behind those
before it, with the first fault of that block, and the blocks before it are accepted. What
is accepted stays so when blocks at its end are left out or all are put in another order. -/
theorem validate_reports_first_fault (blocks : List Block) :
    (validate blocks = .ok () ↔
      (∀ block ∈ blocks, block.id ≠ "") ∧ (blocks.map Block.id).Nodup ∧
        ∀ block ∈ blocks, block.kind? ≠ none) ∧
    (∀ cause, validate blocks = .error cause ↔
      ∃ index block, blocks[index]? = some block ∧
        validate (blocks.take index) = .ok () ∧
        (∀ earlier other, earlier < index → blocks[earlier]? = some other →
          faultBehind? (blocks.take earlier) other = none) ∧
        faultBehind? (blocks.take index) block = some cause) ∧
    (validate blocks = .ok () →
      (∀ front, front <+: blocks → validate front = .ok ()) ∧
      ∀ others, List.Perm others blocks → validate others = .ok ()) := by
  refine ⟨?_, ?_, ?_⟩
  · rw [validate_iff]
    constructor
    · intro storable
      exact ⟨fun block member => (storable.each block member).named, storable.distinct,
        fun block member => (storable.each block member).known⟩
    · rintro ⟨named, distinct, known⟩
      exact ⟨fun block member => ⟨named block member, known block member⟩, distinct⟩
  · intro cause
    rw [validate_eq_error]
    constructor
    · rintro ⟨before, block, after, rfl, storable, fault⟩
      refine ⟨before.length, block, by simp, ?_, ?_, ?_⟩
      · rwa [List.take_left, validate_iff]
      · intro earlier other less found
        rw [List.getElem?_append_left less] at found
        rw [List.take_append_of_le_length less.le]
        exact storable.faultBehind?_take found
      · rwa [List.take_left]
    · rintro ⟨index, block, found, passes, _, fault⟩
      obtain ⟨inside, rfl⟩ := List.getElem?_eq_some_iff.1 found
      refine ⟨blocks.take index, blocks[index], blocks.drop (index + 1), ?_,
        (validate_iff _).1 passes, fault⟩
      rw [← List.drop_eq_getElem_cons inside, List.take_append_drop]
  · intro accepted
    have storable := (validate_iff blocks).1 accepted
    constructor
    · intro front within
      exact (validate_iff front).2 (storable.of_sublist within.sublist)
    · intro others same
      exact (validate_iff others).2 (storable.of_perm same)

/-- A repeated identifier of a block whose type is not known either, and the blocks before it
in another order. -/
theorem validate_reports_first_fault_of_repeated :
    let gap (id : String) : Block := ⟨id, .spacer, .empty⟩
    let video : Block := ⟨"a", .foreign ⟨"video", .emptyObject, by decide, rfl⟩, .empty⟩
    let blocks := [gap "a", gap "b", video, gap ""]
    validate [gap "a", gap "b"] = .ok () ∧ validate [gap "a"] = .ok () ∧
      validate [gap "b", gap "a"] = .ok () ∧ validate blocks = .error (.duplicateId "a") := by
  intro gap video blocks
  obtain ⟨accepted, _, kept⟩ := validate_reports_first_fault [gap "a", gap "b"]
  have known (id : String) : (gap id).kind? ≠ none := nofun
  have both : validate [gap "a", gap "b"] = .ok () :=
    accepted.2 ⟨by simp [gap], by simp [gap], by simp [known]⟩
  obtain ⟨front, order⟩ := kept both
  refine ⟨both, front _ ⟨[gap "b"], rfl⟩, order _ (List.Perm.swap _ _ _), ?_⟩
  obtain ⟨_, refused, _⟩ := validate_reports_first_fault blocks
  refine (refused _).2 ⟨2, video, rfl, both, ?_, rfl⟩
  intro earlier other less found
  match earlier, less with
  | 0, _ => cases found; rfl
  | 1, _ => cases found; rfl

end BlockMail.Blocks
