import BlockMail.Proofs.Json.NumberText
import BlockMail.Proofs.Json.Strings

/-!
# Values read back

The compact text of a value is read as the value, its numbers reread, if its objects name
no member twice and it does not nest too deep.
-/

set_option autoImplicit false

namespace BlockMail.Json

/-! ## Names of members -/

mutual

/-- Whether no object in a value names a member twice. -/
def Distinct : Json → Prop
  | .null | .bool _ | .number _ | .string _ => True
  | .array items => DistinctItems items
  | .object members => (members.map Prod.fst).Nodup ∧ DistinctMembers members

def DistinctItems : List Json → Prop
  | [] => True
  | item :: rest => item.Distinct ∧ DistinctItems rest

def DistinctMembers : List (String × Json) → Prop
  | [] => True
  | (_, value) :: rest => value.Distinct ∧ DistinctMembers rest

end

theorem distinctItems_iff {items : List Json} :
    DistinctItems items ↔ ∀ item ∈ items, item.Distinct := by
  induction items with
  | nil => simp [DistinctItems]
  | cons item rest ih => rw [DistinctItems, List.forall_mem_cons, ih]

theorem distinctMembers_iff {members : List (String × Json)} :
    DistinctMembers members ↔ ∀ member ∈ members, member.2.Distinct := by
  induction members with
  | nil => simp [DistinctMembers]
  | cons member rest ih => rw [DistinctMembers, List.forall_mem_cons, ih]

mutual

/-- A value whose numbers were written and read. -/
def reread : Json → Json
  | .number value => .number value.reread
  | .array items => .array (rereadItems items)
  | .object members => .object (rereadMembers members)
  | .null => .null
  | .bool value => .bool value
  | .string value => .string value

def rereadItems : List Json → List Json
  | [] => []
  | item :: rest => item.reread :: rereadItems rest

def rereadMembers : List (String × Json) → List (String × Json)
  | [] => []
  | (name, value) :: rest => (name, value.reread) :: rereadMembers rest

end

theorem names_reread (members : List (String × Json)) :
    (rereadMembers members).map Prod.fst = members.map Prod.fst := by
  induction members with
  | nil => rfl
  | cons member rest ih => simp only [rereadMembers, List.map_cons, ih]

/-! ## What a text shows -/

mutual

/-- What a reader sees in the text of a value. -/
def draft : Json → Draft
  | .null => .null
  | .bool value => .bool value
  | .number value => .number (some value)
  | .string value => .string (some value)
  | .array items => .array (draftItems items)
  | .object members => .object (draftMembers members)

def draftItems : List Json → List Draft
  | [] => []
  | item :: rest => item.draft :: draftItems rest

def draftMembers : List (String × Json) → List (Option String × Draft)
  | [] => []
  | (name, value) :: rest => (some name, value.draft) :: draftMembers rest

end

/-! ## How texts begin -/

theorem quote_toList (text : String) :
    (quote text).toList = '"' :: (text.toList.flatMap escapeChar ++ ['"']) := by
  simp [quote]

theorem skipSpaces_cons {char : Char} (visible : isSpace char = false) (rest : List Char) :
    skipSpaces (char :: rest) = char :: rest := by
  simp [skipSpaces, visible]

theorem head_number (number : Number) : ∃ char rest, number.text.toList = char :: rest ∧
    (char = '-' ∨ isDecimalDigit char = true) := by
  have lawful := Number.lawful_numeral number
  rw [← Number.chars_numeral]
  generalize number.numeral = numeral at lawful ⊢
  obtain ⟨negative, whole, fraction, exponent⟩ := numeral
  cases negative with
  | true => exact ⟨'-', _, rfl, .inl rfl⟩
  | false =>
      cases whole with
      | nil => exact absurd rfl lawful.present
      | cons digit rest => exact ⟨digit, _, rfl, .inr (lawful.whole digit (by simp))⟩

theorem isSpace_of_digit {char : Char} (digit : isDecimalDigit char = true) :
    isSpace char = false := by
  cases space : isSpace char with
  | false => rfl
  | true =>
      simp only [isSpace, Bool.or_eq_true, beq_iff_eq] at space
      rcases space with ((rfl | rfl) | rfl) | rfl <;> exact absurd digit (by decide)

/-- A value starts with a character that neither is a blank nor ends an array. -/
theorem head_compact (value : Json) : ∃ char rest, value.compact.toList = char :: rest ∧
    isSpace char = false ∧ char ≠ ']' := by
  cases value with
  | null => exact ⟨'n', _, rfl, by decide, by decide⟩
  | bool value =>
      cases value with
      | true => exact ⟨'t', _, rfl, by decide, by decide⟩
      | false => exact ⟨'f', _, rfl, by decide, by decide⟩
  | number value =>
      obtain ⟨char, rest, text, starts⟩ := head_number value
      refine ⟨char, rest, text, ?_⟩
      rcases starts with rfl | digit
      · decide
      · refine ⟨isSpace_of_digit digit, ?_⟩
        rintro rfl
        exact absurd digit (by decide)
  | string value => exact ⟨'"', _, quote_toList value, by decide, by decide⟩
  | array items =>
      exact ⟨'[', (compactItems items).toList ++ [']'], by simp [compact], by decide, by decide⟩
  | object members =>
      exact ⟨'\x7b', (compactMembers members).toList ++ ['\x7d'], by simp [compact], by decide,
        by decide⟩

/-! ## Reading -/

theorem readValue_number (number : Number) {rest : List Char} (after : Delimited rest)
    (budget : Nat) : readValue (budget + 1) (number.text.toList ++ rest) =
      (.number number.numeral.value?, rest) := by
  obtain ⟨char, others, text, starts⟩ := head_number number
  have visible : isSpace char = false := by
    rcases starts with rfl | digit
    · decide
    · exact isSpace_of_digit digit
  have read := number.read?_text after
  rw [text, List.cons_append] at read ⊢
  rw [readValue, skipSpaces_cons visible]
  split
  case h_1 none => cases none
  case h_8 => rw [read]
  -- No other value starts like a number.
  all_goals
    rename_i same
    cases same
    rcases starts with minus | digit
    · exact absurd minus (by decide)
    · exact absurd digit (by decide)

/-- Items, with what ends them. -/
theorem compactItems_toList (item : Json) (rest : List Json) :
    (compactItems (item :: rest)).toList = item.compact.toList ++
      match rest with
      | [] => []
      | next :: rest => ',' :: (compactItems (next :: rest)).toList := by
  cases rest with
  | nil => simp [compactItems]
  | cons next rest => simp [compactItems]

theorem head_items (item : Json) (rest : List Json) : ∃ char others,
    (compactItems (item :: rest)).toList = char :: others ∧ isSpace char = false ∧ char ≠ ']' := by
  obtain ⟨char, others, text, starts⟩ := head_compact item
  exact ⟨char, _, by rw [compactItems_toList, text, List.cons_append], starts⟩

theorem compactMembers_toList (name : String) (value : Json) (rest : List (String × Json)) :
    (compactMembers ((name, value) :: rest)).toList =
      '"' :: (name.toList.flatMap escapeChar ++ '"' :: ':' :: (value.compact.toList ++
        match rest with
        | [] => []
        | next :: rest => ',' :: (compactMembers (next :: rest)).toList)) := by
  cases rest with
  | nil => simp [compactMembers, quote]
  | cons next rest => simp [compactMembers, quote]

/-- With a budget of the length of its text every value is read back, its numbers reread. -/
structure Reads (budget : Nat) : Prop where
  value : ∀ (value : Json), value.compact.toList.length ≤ budget → ∀ rest, Delimited rest →
    readValue budget (value.compact.toList ++ rest) = (value.reread.draft, rest)
  items : ∀ item items, (compactItems (item :: items)).toList.length < budget → ∀ rest,
    readItems budget ((compactItems (item :: items)).toList ++ ']' :: rest) =
      (draftItems (rereadItems (item :: items)), rest)
  members : ∀ member members,
    (compactMembers (member :: members)).toList.length < budget → ∀ rest,
      readMembers budget ((compactMembers (member :: members)).toList ++ '\x7d' :: rest) =
        (draftMembers (rereadMembers (member :: members)), rest)

variable {budget : Nat}

theorem delimited_cons {char : Char} (ends : isDecimalDigit char = false ∧ char ≠ '.' ∧
    char ≠ 'e' ∧ char ≠ 'E') (rest : List Char) : Delimited (char :: rest) := by
  rintro _ ⟨⟩
  exact ends

theorem reads_zero : Reads 0 := by
  refine ⟨?_, nofun, nofun⟩
  intro value short
  obtain ⟨char, rest, text, _⟩ := head_compact value
  simp [text] at short

theorem Reads.items_succ (reads : Reads budget) (item : Json) (items : List Json)
    (short : (compactItems (item :: items)).toList.length < budget + 1) (rest : List Char) :
    readItems (budget + 1) ((compactItems (item :: items)).toList ++ ']' :: rest) =
      (draftItems (rereadItems (item :: items)), rest) := by
  rw [compactItems_toList] at short ⊢
  cases items with
  | nil =>
      rw [List.append_nil] at short
      have read := reads.value item (by omega) (']' :: rest) (delimited_cons (by decide) _)
      simp only [List.append_nil, readItems, read]
      rw [skipSpaces_cons (by decide)]
      rfl
  | cons next items =>
      simp only [List.length_append, List.length_cons] at short
      have read := reads.value item (by omega)
        (',' :: ((compactItems (next :: items)).toList ++ ']' :: rest))
        (delimited_cons (by decide) _)
      have others := reads.items next items (by omega) rest
      simp only [List.append_assoc, List.cons_append, readItems, read]
      rw [skipSpaces_cons (by decide)]
      simp only [others]
      rfl

theorem Reads.members_succ (reads : Reads budget) (member : String × Json)
    (members : List (String × Json))
    (short : (compactMembers (member :: members)).toList.length < budget + 1)
    (rest : List Char) :
    readMembers (budget + 1) ((compactMembers (member :: members)).toList ++ '\x7d' :: rest) =
      (draftMembers (rereadMembers (member :: members)), rest) := by
  obtain ⟨name, value⟩ := member
  rw [compactMembers_toList] at short ⊢
  cases members with
  | nil =>
      simp only [List.length_append, List.length_cons, List.append_nil] at short
      have read := reads.value value (by omega) ('\x7d' :: rest)
        (delimited_cons (by decide) _)
      simp only [List.append_nil, List.cons_append, List.append_assoc, readMembers]
      rw [skipSpaces_cons (by decide)]
      simp only [readString?_quote]
      rw [skipSpaces_cons (by decide)]
      simp only [read]
      rw [skipSpaces_cons (by decide)]
      rfl
  | cons next members =>
      simp only [List.length_append, List.length_cons] at short
      have read := reads.value value (by omega)
        (',' :: ((compactMembers (next :: members)).toList ++ '\x7d' :: rest))
        (delimited_cons (by decide) _)
      have others := reads.members next members (by omega) rest
      simp only [List.cons_append, List.append_assoc, readMembers]
      rw [skipSpaces_cons (by decide)]
      simp only [readString?_quote]
      rw [skipSpaces_cons (by decide)]
      simp only [read]
      rw [skipSpaces_cons (by decide)]
      simp only [others]
      rfl

theorem readValue_bracket {char : Char} (visible : isSpace char = false) (notEnd : char ≠ ']')
    (others : List Char) : readValue (budget + 1) ('[' :: char :: others) =
      (.array (readItems budget (char :: others)).1, (readItems budget (char :: others)).2) := by
  rw [readValue, skipSpaces_cons (by decide)]
  simp only []
  rw [skipSpaces_cons visible]
  split
  · rename_i ends
    exact absurd (List.cons.inj ends).1 notEnd
  · rfl

theorem readValue_brace {char : Char} (visible : isSpace char = false) (notEnd : char ≠ '\x7d')
    (others : List Char) : readValue (budget + 1) ('\x7b' :: char :: others) =
      (.object (readMembers budget (char :: others)).1,
        (readMembers budget (char :: others)).2) := by
  rw [readValue, skipSpaces_cons (by decide)]
  simp only []
  rw [skipSpaces_cons visible]
  split
  · rename_i ends
    exact absurd (List.cons.inj ends).1 notEnd
  · rfl

theorem Reads.value_succ (reads : Reads budget) (value : Json)
    (short : value.compact.toList.length ≤ budget + 1) (rest : List Char)
    (after : Delimited rest) :
    readValue (budget + 1) (value.compact.toList ++ rest) = (value.reread.draft, rest) := by
  cases value with
  | null => rfl
  | bool value => cases value <;> rfl
  | number value =>
      rw [compact, readValue_number value after, Number.value?_numeral]
      rfl
  | string value =>
      rw [compact, quote_toList, List.cons_append, List.append_assoc, readValue,
        skipSpaces_cons (by decide)]
      simp only [List.singleton_append, readString?_quote]
      rfl
  | array items =>
      cases items with
      | nil => rfl
      | cons item items =>
          have text : (compact (.array (item :: items))).toList ++ rest =
              '[' :: ((compactItems (item :: items)).toList ++ ']' :: rest) := by
            simp [compact]
          have length := congrArg List.length text
          simp only [List.length_append, List.length_cons] at length
          have read := reads.items item items (by omega) rest
          obtain ⟨char, others, start, visible, notEnd⟩ := head_items item items
          rw [start, List.cons_append] at text read
          rw [text, readValue_bracket visible notEnd, read]
          rfl
  | object members =>
      cases members with
      | nil => rfl
      | cons member members =>
          have text : (compact (.object (member :: members))).toList ++ rest =
              '\x7b' :: ((compactMembers (member :: members)).toList ++ '\x7d' :: rest) := by
            simp [compact]
          have length := congrArg List.length text
          simp only [List.length_append, List.length_cons] at length
          have read := reads.members member members (by omega) rest
          rw [compactMembers_toList, List.cons_append] at text read
          rw [text, readValue_brace (by decide) (by decide), read]
          rfl

/-- Every value is read back from its text, its numbers reread. The budget is the length
of the text; induction is on the budget, along the calls of the reader. -/
theorem reads (budget : Nat) : Reads budget := by
  induction budget with
  | zero => exact reads_zero
  | succ budget ih => exact ⟨ih.value_succ, ih.items_succ, ih.members_succ⟩

/-! ## Values of drafts -/

mutual

/-- How deep arrays and objects lie in one another. -/
def nesting : Json → Nat
  | .array items => nestingItems items + 1
  | .object members => nestingMembers members + 1
  | .null | .bool _ | .number _ | .string _ => 0

def nestingItems : List Json → Nat
  | [] => 0
  | item :: rest => max item.nesting (nestingItems rest)

def nestingMembers : List (String × Json) → Nat
  | [] => 0
  | (_, value) :: rest => max value.nesting (nestingMembers rest)

end

mutual

theorem toJson?_draft : ∀ (value : Json) {depth : Nat},
    value.Distinct → value.nesting < depth → value.draft.toJson? depth = some value
  | .null, _, _, _ | .bool _, _, _, _ | .number _, _, _, _ | .string _, _, _, _ => rfl
  | .array items, depth, distinct, shallow => by
      rw [nesting] at shallow
      have read := itemsToJson?_draft items distinct (show nestingItems items < depth - 1 by omega)
      rw [draft, Draft.toJson?, if_neg (by omega), read]
      rfl
  | .object members, depth, distinct, shallow => by
      rw [nesting] at shallow
      have read := membersToJson?_draft members [] distinct.2 distinct.1
        (show nestingMembers members < depth - 1 by omega)
      rw [draft, Draft.toJson?, if_neg (by omega), read]
      rfl

theorem itemsToJson?_draft : ∀ (items : List Json) {depth : Nat},
    DistinctItems items → nestingItems items < depth →
      Draft.itemsToJson? depth (draftItems items) = some items
  | [], _, _, _ => rfl
  | item :: rest, depth, distinct, shallow => by
      rw [nestingItems] at shallow
      have first := toJson?_draft item distinct.1 (show item.nesting < depth by omega)
      have others := itemsToJson?_draft rest distinct.2 (show nestingItems rest < depth by omega)
      simp only [draftItems, Draft.itemsToJson?, first, others]
      rfl

theorem membersToJson?_draft :
    ∀ (members before : List (String × Json)) {depth : Nat},
      DistinctMembers members → ((before ++ members).map Prod.fst).Nodup →
      nestingMembers members < depth →
        Draft.membersToJson? depth before (draftMembers members) = some (before ++ members)
  | [], before, _, _, _, _ => by
      rw [List.append_nil]
      rfl
  | (name, value) :: rest, before, depth, distinct, unrepeated, shallow => by
      rw [nestingMembers] at shallow
      have first := toJson?_draft value distinct.1 (show value.nesting < depth by omega)
      have absent : name ∉ before.map Prod.fst := by
        intro member
        rw [List.map_append, List.nodup_append] at unrepeated
        exact unrepeated.2.2 _ member _ (by simp) rfl
      have others := membersToJson?_draft rest (before ++ [(name, value)]) distinct.2
        (by simpa using unrepeated) (show nestingMembers rest < depth by omega)
      rw [List.append_assoc, List.singleton_append, ← Keyed.put_of_absent absent] at others
      simp only [draftMembers, Draft.membersToJson?, first]
      exact others

end

/-! ## Values read back -/

mutual

theorem distinct_reread : ∀ {value : Json}, value.Distinct → value.reread.Distinct
  | .null, _ | .bool _, _ | .number _, _ | .string _, _ => trivial
  | .array _, distinct => distinctItems_reread distinct
  | .object _, distinct =>
      ⟨by rw [names_reread]; exact distinct.1, distinctMembers_reread distinct.2⟩

theorem distinctItems_reread : ∀ {items : List Json},
    DistinctItems items → DistinctItems (rereadItems items)
  | [], _ => trivial
  | _ :: _, distinct => ⟨distinct_reread distinct.1, distinctItems_reread distinct.2⟩

theorem distinctMembers_reread : ∀ {members : List (String × Json)},
    DistinctMembers members → DistinctMembers (rereadMembers members)
  | [], _ => trivial
  | (_, _) :: _, distinct => ⟨distinct_reread distinct.1, distinctMembers_reread distinct.2⟩

end

mutual

theorem nesting_reread : ∀ value : Json, value.reread.nesting = value.nesting
  | .null | .bool _ | .string _ | .number _ => rfl
  | .array items => congrArg (· + 1) (nestingItems_reread items)
  | .object members => congrArg (· + 1) (nestingMembers_reread members)

theorem nestingItems_reread : ∀ items : List Json,
    nestingItems (rereadItems items) = nestingItems items
  | [] => rfl
  | item :: rest => congrArg₂ max (nesting_reread item) (nestingItems_reread rest)

theorem nestingMembers_reread : ∀ members : List (String × Json),
    nestingMembers (rereadMembers members) = nestingMembers members
  | [] => rfl
  | (_, value) :: rest => congrArg₂ max (nesting_reread value) (nestingMembers_reread rest)

end

/-! ## Regular values -/

theorem nestingItems_le {items : List Json} {depth : Nat} :
    nestingItems items ≤ depth ↔ ∀ item ∈ items, item.nesting ≤ depth := by
  induction items with
  | nil => simp [nestingItems]
  | cons item rest ih => rw [nestingItems, max_le_iff, List.forall_mem_cons, ih]

theorem nestingMembers_le {members : List (String × Json)} {depth : Nat} :
    nestingMembers members ≤ depth ↔ ∀ member ∈ members, member.2.nesting ≤ depth := by
  induction members with
  | nil => simp [nestingMembers]
  | cons member rest ih => rw [nestingMembers, max_le_iff, List.forall_mem_cons, ih]

/-- A value that nests to some depth at most, and whose objects name no member twice. -/
structure Regular (depth : Nat) (value : Json) : Prop where
  distinct : value.Distinct
  shallow : value.nesting ≤ depth

theorem Regular.mono {value : Json} {depth deeper : Nat} (regular : value.Regular depth)
    (within : depth ≤ deeper) : value.Regular deeper :=
  ⟨regular.distinct, regular.shallow.trans within⟩

theorem regular_array {items : List Json} {depth : Nat} :
    (array items).Regular (depth + 1) ↔ ∀ item ∈ items, item.Regular depth := by
  constructor
  · intro regular item member
    exact ⟨distinctItems_iff.1 regular.distinct item member,
      nestingItems_le.1 (Nat.le_of_succ_le_succ regular.shallow) item member⟩
  · intro each
    exact ⟨distinctItems_iff.2 fun item member => (each item member).distinct,
      Nat.succ_le_succ (nestingItems_le.2 fun item member => (each item member).shallow)⟩

theorem regular_object {members : List (String × Json)} {depth : Nat} :
    (object members).Regular (depth + 1) ↔
      (members.map Prod.fst).Nodup ∧ ∀ member ∈ members, member.2.Regular depth := by
  constructor
  · intro regular
    refine ⟨regular.distinct.1, ?_⟩
    intro member there
    exact ⟨distinctMembers_iff.1 regular.distinct.2 member there,
      nestingMembers_le.1 (Nat.le_of_succ_le_succ regular.shallow) member there⟩
  · rintro ⟨distinct, each⟩
    exact ⟨⟨distinct, distinctMembers_iff.2 fun member there => (each member there).distinct⟩,
      Nat.succ_le_succ (nestingMembers_le.2 fun member there => (each member there).shallow)⟩

theorem Regular.reread {value : Json} {depth : Nat} (regular : value.Regular depth) :
    value.reread.Regular depth :=
  ⟨distinct_reread regular.distinct, by rw [nesting_reread]; exact regular.shallow⟩

theorem read_compact (value : Json) :
    Draft.read value.compact = (value.reread.draft, []) := by
  have read := (reads (2 * value.compact.toList.length + 2)).value value (by omega) []
    Number.delimited_nil
  rw [List.append_nil] at read
  exact read

/-- A regular value that does not nest too deep is read back from its text. -/
theorem parse?_compact {value : Json} {depth : Nat} (regular : value.Regular depth)
    (within : depth < nestingLimit) : parse? value.compact = some value.reread := by
  have valued := toJson?_draft value.reread regular.reread.distinct
    (Nat.lt_of_le_of_lt regular.reread.shallow within)
  simp only [parse?, parseWithin?, read_compact]
  exact valued

end BlockMail.Json
