/-!
# Leftmost marks

A rule says which pieces of text are marks and what each of them stands for. A text has one
cut at its marks, leftmost first, and a scan from the left that puts the meaning of a mark in
its place and passes over every other character makes the text from that cut.
-/

set_option autoImplicit false

namespace BlockMail.Text

/-- Nothing that `Front` looks for begins inside a stretch of text that goes on with
`after`. -/
def Passed (Front : List Char → Prop) (stretch after : List Char) : Prop :=
  ∀ late, late <:+ stretch → late ≠ [] → ¬ Front (late ++ after)

section Passed

variable {Front : List Char → Prop} {char : Char} {stretch other after behind : List Char}

theorem passed_nil (Front : List Char → Prop) (after : List Char) : Passed Front [] after := by
  intro late suffix notEmpty
  exact absurd (List.suffix_nil.1 suffix) notEmpty

theorem passed_cons :
    Passed Front (char :: stretch) after ↔
      ¬ Front (char :: stretch ++ after) ∧ Passed Front stretch after := by
  constructor
  · intro passed
    refine ⟨passed _ List.suffix_rfl (List.cons_ne_nil _ _), ?_⟩
    intro late suffix
    exact passed late (suffix.trans (List.suffix_cons char stretch))
  · rintro ⟨closed, passed⟩ late suffix notEmpty
    rcases List.suffix_cons_iff.1 suffix with rfl | inside
    · exact closed
    · exact passed late inside notEmpty

/-- Two stretches that both end at the first place that is looked for are the same. -/
theorem passed_unique (passed : Passed Front stretch after) (again : Passed Front other behind)
    (front : Front after) (frontToo : Front behind) (same : stretch ++ after = other ++ behind) :
    stretch = other ∧ after = behind := by
  rcases List.append_eq_append_iff.1 same with ⟨late, rfl, rfl⟩ | ⟨late, rfl, rfl⟩
  · cases late with
    | nil => simp
    | cons char late =>
        exact absurd front (again _ (List.suffix_append _ _) (List.cons_ne_nil _ _))
  · cases late with
    | nil => simp
    | cons char late =>
        exact absurd frontToo (passed _ (List.suffix_append _ _) (List.cons_ne_nil _ _))

end Passed

/-! ## Rules and cuts -/

/-- A mark stands at the front of a text. -/
def Begins (Rule : List Char → List Char → Prop) (text : List Char) : Prop :=
  ∃ mark value after, Rule mark value ∧ text = mark ++ after

/-- Marks are not empty, and at most one of them stands at the front of a text. -/
structure Unambiguous (Rule : List Char → List Char → Prop) : Prop where
  notEmpty : ∀ {mark value : List Char}, Rule mark value → mark ≠ []
  single : ∀ {mark value other meaning after behind : List Char}, Rule mark value →
    Rule other meaning → mark ++ after = other ++ behind → mark = other ∧ value = meaning

/-- A text cut at marks. Before each of them, and behind the last, there is a stretch of
text, which may be empty. -/
inductive Parts where
  | last (stretch : List Char)
  | next (stretch mark value : List Char) (rest : Parts)

namespace Parts

/-- The text that was cut. -/
def source : Parts → List Char
  | .last stretch => stretch
  | .next stretch mark _ rest => stretch ++ (mark ++ rest.source)

/-- The text with the meaning of each mark in its place. -/
def replaced : Parts → List Char
  | .last stretch => stretch
  | .next stretch _ value rest => stretch ++ (value ++ rest.replaced)

def stretches : Parts → List (List Char)
  | .last stretch => [stretch]
  | .next stretch _ _ rest => stretch :: rest.stretches

/-- The marks and their meanings. -/
def marks : Parts → List (List Char × List Char)
  | .last _ => []
  | .next _ mark value rest => (mark, value) :: rest.marks

/-- Each mark is the first one of the text that is left. -/
inductive LeftmostFirst (Rule : List Char → List Char → Prop) : Parts → Prop where
  | last {stretch : List Char} :
      Passed (Begins Rule) stretch [] → LeftmostFirst Rule (.last stretch)
  | next {stretch mark value : List Char} {rest : Parts} :
      Rule mark value →
      Passed (Begins Rule) stretch (mark ++ rest.source) →
      LeftmostFirst Rule rest →
      LeftmostFirst Rule (.next stretch mark value rest)

end Parts

variable {Rule : List Char → List Char → Prop}

theorem Passed.not_within {stretch after mark value : List Char}
    (passed : Passed (Begins Rule) stretch after) (marked : Rule mark value)
    (notEmpty : mark ≠ []) : ¬ mark <:+: stretch := by
  rintro ⟨early, behind, rfl⟩
  rw [List.append_assoc] at passed
  apply passed (mark ++ behind) (List.suffix_append _ _)
  · simp [notEmpty]
  · exact ⟨mark, value, behind ++ after, marked, List.append_assoc _ _ _⟩

namespace Parts

variable {parts : Parts}

theorem LeftmostFirst.marked (leftmost : parts.LeftmostFirst Rule) :
    ∀ mark ∈ parts.marks, Rule mark.1 mark.2 := by
  induction leftmost with
  | last => exact fun _ member => absurd member List.not_mem_nil
  | next marked _ _ ih => exact List.forall_mem_cons.2 ⟨marked, ih⟩

theorem LeftmostFirst.not_within (leftmost : parts.LeftmostFirst Rule)
    (unambiguous : Unambiguous Rule) :
    ∀ stretch ∈ parts.stretches, ∀ mark value, Rule mark value → ¬ mark <:+: stretch := by
  induction leftmost with
  | last passed =>
      intro stretch member mark value marked
      cases List.mem_singleton.1 member
      exact passed.not_within marked (unambiguous.notEmpty marked)
  | next _ passed _ ih =>
      refine List.forall_mem_cons.2 ⟨?_, ih⟩
      intro mark value marked
      exact passed.not_within marked (unambiguous.notEmpty marked)

/-- A text without marks has no other cut. -/
theorem LeftmostFirst.eq_last {stretch : List Char} (leftmost : parts.LeftmostFirst Rule)
    (unambiguous : Unambiguous Rule) (passed : Passed (Begins Rule) stretch [])
    (same : parts.source = stretch) : parts = .last stretch := by
  cases leftmost with
  | last =>
      rw [← same]
      rfl
  | @next first mark value rest marked _ _ =>
      refine absurd ?_ (passed.not_within marked (unambiguous.notEmpty marked))
      rw [← same]
      exact ⟨first, rest.source, List.append_assoc _ _ _⟩

/-- A text has one cut. -/
theorem LeftmostFirst.unique (leftmost : parts.LeftmostFirst Rule)
    (unambiguous : Unambiguous Rule) {other : Parts} (another : other.LeftmostFirst Rule)
    (same : parts.source = other.source) : parts = other := by
  induction leftmost generalizing other with
  | last passed => exact (another.eq_last unambiguous passed same.symm).symm
  | @next stretch mark value rest marked passed leftmost ih =>
      cases another with
      | last passedToo =>
          exact (LeftmostFirst.next marked passed leftmost).eq_last unambiguous passedToo same
      | next markedToo passedToo another =>
          obtain ⟨rfl, sameRest⟩ := passed_unique passed passedToo
            ⟨_, _, _, marked, rfl⟩ ⟨_, _, _, markedToo, rfl⟩ same
          obtain ⟨rfl, rfl⟩ := unambiguous.single marked markedToo sameRest
          rw [ih another (List.append_cancel_left sameRest)]

/-- A character at whose place no mark begins can be put in front of a cut. -/
theorem LeftmostFirst.cons {char : Char} (leftmost : parts.LeftmostFirst Rule)
    (unmarked : ¬ Begins Rule (char :: parts.source)) :
    ∃ longer : Parts, longer.source = char :: parts.source ∧ longer.LeftmostFirst Rule := by
  cases leftmost with
  | @last stretch passed =>
      refine ⟨.last (char :: stretch), rfl, .last (passed_cons.2 ⟨?_, passed⟩)⟩
      rw [List.append_nil]
      exact unmarked
  | @next stretch mark value rest marked passed leftmost =>
      exact ⟨.next (char :: stretch) mark value rest, rfl,
        .next marked (passed_cons.2 ⟨unmarked, passed⟩) leftmost⟩

theorem exists_leftmostFirst (unambiguous : Unambiguous Rule) (text : List Char) :
    ∃ parts : Parts, parts.source = text ∧ parts.LeftmostFirst Rule := by
  -- The text behind a mark is shorter, as marks are not empty.
  induction size : text.length using Nat.strongRecOn generalizing text with
  | ind count ih =>
      by_cases begins : Begins Rule text
      · obtain ⟨mark, value, after, marked, rfl⟩ := begins
        have shorter : after.length < count := by
          have length := List.length_pos_iff.2 (unambiguous.notEmpty marked)
          rw [← size, List.length_append]
          omega
        obtain ⟨rest, rfl, leftmost⟩ := ih _ shorter after rfl
        exact ⟨.next [] mark value rest, rfl, .next marked (passed_nil _ _) leftmost⟩
      · cases text with
        | nil => exact ⟨.last [], rfl, .last (passed_nil _ _)⟩
        | cons char rest =>
            obtain ⟨parts, rfl, leftmost⟩ := ih _ (by simp [← size]) rest rfl
            exact leftmost.cons begins

end Parts

/-! ## Scans -/

/-- A scan from the left. -/
structure Scans (Rule : List Char → List Char → Prop) (scan : List Char → List Char) :
    Prop where
  nil : scan [] = []
  mark : ∀ {mark value : List Char}, Rule mark value → ∀ after,
    scan (mark ++ after) = value ++ scan after
  pass : ∀ {char : Char} {rest : List Char}, ¬ Begins Rule (char :: rest) →
    scan (char :: rest) = char :: scan rest

namespace Scans

variable {scan : List Char → List Char}

theorem passed (scans : Scans Rule scan) {stretch after : List Char}
    (passed : Passed (Begins Rule) stretch after) :
    scan (stretch ++ after) = stretch ++ scan after := by
  induction stretch with
  | nil => rfl
  | cons char stretch ih =>
      obtain ⟨unmarked, later⟩ := passed_cons.1 passed
      rw [List.cons_append] at unmarked
      rw [List.cons_append, scans.pass unmarked, ih later, List.cons_append]

theorem replaced (scans : Scans Rule scan) {parts : Parts}
    (leftmost : parts.LeftmostFirst Rule) : scan parts.source = parts.replaced := by
  induction leftmost with
  | @last stretch passed =>
      have kept := scans.passed passed
      rwa [scans.nil, List.append_nil] at kept
  | next marked passed _ ih =>
      rw [Parts.source, scans.passed passed, scans.mark marked, ih, Parts.replaced]

/-- Two scans for the same marks come to the same. -/
theorem unique {other : List Char → List Char} (scans : Scans Rule scan)
    (again : Scans Rule other) (unambiguous : Unambiguous Rule) (text : List Char) :
    scan text = other text := by
  obtain ⟨parts, rfl, leftmost⟩ := Parts.exists_leftmostFirst unambiguous text
  rw [scans.replaced leftmost, again.replaced leftmost]

end Scans

end BlockMail.Text
