import BlockMail.Html.Interpolation
import BlockMail.Proofs.Keyed.Lookup
import BlockMail.Proofs.Text.Leftmost

/-!
# Which placeholders are replaced

A text and a context determine one cut of the text at its known placeholders, leftmost
first, and what is put together from that cut is the text with its placeholders replaced.
Whether a known placeholder stands at the front of a text hangs on that text alone, so
nothing that was passed over or replaced before can change it.
-/

set_option autoImplicit false

namespace BlockMail.Html

open Text

/-- A key that can stand between the braces of a placeholder. Any other key would end at
an earlier pair of closing braces. -/
def Nameable (key : List Char) : Prop :=
  ¬ ['}', '}'] <:+: key ∧ key.getLast? ≠ some '}'

def placeholder (key : List Char) : List Char :=
  '{' :: '{' :: (key ++ ['}', '}'])

/-- The context has a value for a key that can stand in a placeholder. -/
structure Known (context : Context) (key : List Char) (value : Scalar) : Prop where
  nameable : Nameable key
  held : context.get? (String.ofList key) = some value

/-- Placeholders that the context knows, and the text of their values. -/
inductive PlaceholderRule (context : Context) : List Char → List Char → Prop where
  | known {key : List Char} {value : Scalar} :
      Known context key value →
      PlaceholderRule context (placeholder key) value.toText.toList

/-! ## Keys between braces -/

theorem nameable_nil : Nameable [] := by
  constructor
  · intro inside
    cases List.infix_nil.1 inside
  · intro ends
    cases ends

/-- A character can be put in front of a key unless it makes a pair of closing braces with
what follows, be it in the key or behind it. -/
theorem nameable_cons {char : Char} {key : List Char} :
    Nameable (char :: key) ↔
      Nameable key ∧ ¬ (char = '}' ∧ (key ++ ['}']).head? = some '}') := by
  unfold Nameable
  rw [List.infix_cons_iff]
  cases key with
  | nil => simp
  | cons next key =>
      simp only [List.getLast?_cons_cons, List.cons_append, List.head?_cons,
        Option.some.injEq, List.cons_prefix_cons, List.nil_prefix, and_true]
      grind

theorem splitAtClosing?_of_nameable {key : List Char} (nameable : Nameable key)
    (after : List Char) :
    splitAtClosing? (key ++ '}' :: '}' :: after) = some (key, after) := by
  induction key with
  | nil => rfl
  | cons char key ih =>
      obtain ⟨inner, apart⟩ := nameable_cons.1 nameable
      rw [List.cons_append, splitAtClosing?.eq_3, ih inner]
      · rfl
      · -- The closing braces are not met early.
        rintro rest rfl starts
        apply apart
        refine ⟨rfl, ?_⟩
        cases key with
        | nil => rfl
        | cons next key =>
            cases starts
            rfl

theorem splitAtClosing?_eq_some {text key after : List Char} :
    splitAtClosing? text = some (key, after) ↔
      text = key ++ '}' :: '}' :: after ∧ Nameable key := by
  constructor
  · intro found
    fun_induction splitAtClosing? text generalizing key after with
    | case1 => cases found
    | case2 rest =>
        cases found
        exact ⟨rfl, nameable_nil⟩
    | case3 char rest apart ih =>
        obtain ⟨⟨inner, tail⟩, split, equal⟩ := Option.map_eq_some_iff.1 found
        cases equal
        obtain ⟨rfl, nameable⟩ := ih split
        refine ⟨rfl, nameable_cons.2 ⟨nameable, ?_⟩⟩
        rintro ⟨rfl, closes⟩
        cases inner with
        | nil => exact apart _ rfl rfl
        | cons next inner =>
            cases Option.some.inj closes
            exact apart _ rfl rfl
  · rintro ⟨rfl, nameable⟩
    exact splitAtClosing?_of_nameable nameable after

theorem placeholder?_eq_some {text key after : List Char} :
    placeholder? text = some (key, after) ↔
      text = placeholder key ++ after ∧ Nameable key := by
  unfold placeholder? placeholder
  split
  · rw [splitAtClosing?_eq_some]
    simp
  · rename_i others
    constructor
    · intro found
      cases found
    · rintro ⟨rfl, _⟩
      exact absurd rfl (others _)

/-- A text begins with one placeholder at most. -/
theorem placeholder_inj {key other after behind : List Char} (nameable : Nameable key)
    (another : Nameable other)
    (same : placeholder key ++ after = placeholder other ++ behind) :
    key = other ∧ after = behind := by
  have first : placeholder? (placeholder key ++ after) = some (key, after) :=
    placeholder?_eq_some.2 ⟨rfl, nameable⟩
  have second : placeholder? (placeholder key ++ after) = some (other, behind) :=
    placeholder?_eq_some.2 ⟨same, another⟩
  cases first.symm.trans second
  exact ⟨rfl, rfl⟩

/-! ## The scan -/

variable {context other : Context}

theorem unambiguous_placeholderRule (context : Context) :
    Unambiguous (PlaceholderRule context) := by
  constructor
  · rintro mark value ⟨known⟩
    exact List.cons_ne_nil _ _
  · rintro mark value other meaning after behind ⟨known⟩ ⟨another⟩ same
    obtain ⟨rfl, _⟩ := placeholder_inj known.nameable another.nameable same
    cases known.held.symm.trans another.held
    exact ⟨rfl, rfl⟩

theorem replacement?_eq_some {text value after : List Char} :
    replacement? context text = some (value, after) ↔
      ∃ mark, PlaceholderRule context mark value ∧ text = mark ++ after := by
  simp only [replacement?, Option.bind_eq_bind, Option.bind_eq_some_iff, Prod.exists,
    placeholder?_eq_some, Option.pure_def, Option.some.injEq, Prod.mk.injEq]
  constructor
  · rintro ⟨key, rest, ⟨written, nameable⟩, scalar, held, rfl, rfl⟩
    exact ⟨placeholder key, .known ⟨nameable, held⟩, written⟩
  · rintro ⟨mark, ⟨known⟩, written⟩
    exact ⟨_, after, ⟨written, known.nameable⟩, _, known.held, rfl, rfl⟩

theorem replacement?_eq_none {text : List Char} :
    replacement? context text = none ↔ ¬ Begins (PlaceholderRule context) text := by
  rw [Option.eq_none_iff_forall_not_mem]
  constructor
  · rintro nothing ⟨mark, value, after, rule, written⟩
    exact nothing (value, after) (replacement?_eq_some.2 ⟨mark, rule, written⟩)
  · rintro closed ⟨value, after⟩ found
    obtain ⟨mark, rule, written⟩ := replacement?_eq_some.1 found
    exact closed ⟨mark, value, after, rule, written⟩

theorem scans_substitute (context : Context) :
    Scans (PlaceholderRule context) (substitute context) := by
  constructor
  · rw [substitute]
  · intro mark value rule after
    have found : replacement? context (mark ++ after) = some (value, after) :=
      replacement?_eq_some.2 ⟨mark, rule, rfl⟩
    obtain ⟨char, rest, rfl⟩ :=
      List.exists_cons_of_ne_nil ((unambiguous_placeholderRule context).notEmpty rule)
    rw [List.cons_append] at found ⊢
    rw [substitute, found]
  · intro char rest unmarked
    rw [substitute, replacement?_eq_none.2 unmarked]

theorem hasOpening_of_within {text : List Char} (inside : ['{', '{'] <:+: text) :
    hasOpening text = true := by
  fun_induction hasOpening text with
  | case1 => rfl
  | case2 char rest others ih =>
      rcases List.infix_cons_iff.1 inside with front | later
      · obtain ⟨after, written⟩ := front
        cases written
        exact absurd rfl (others _ rfl)
      · exact ih later
  | case3 => cases List.infix_nil.1 inside

/-- A placeholder that is known takes a context that is not empty, and an opening. -/
theorem not_begins_of_early {text : List Char}
    (early : (context.isEmpty || !hasOpening text) = true) {late : List Char}
    (suffix : late <:+ text) : ¬ Begins (PlaceholderRule context) late := by
  rintro ⟨mark, value, after, ⟨known⟩, rfl⟩
  rcases Bool.or_eq_true_iff.1 early with empty | unopened
  · have member := ByKey.get?_eq_some_iff.1 known.held
    rw [List.isEmpty_iff.1 empty] at member
    cases member
  · have inside : ['{', '{'] <:+: text := List.IsInfix.trans ⟨[], _, rfl⟩ suffix.isInfix
    rw [hasOpening_of_within inside] at unopened
    cases unopened

/-- Without a context or without an opening the scan finds nothing to replace. -/
theorem interpolate_eq (content : String) (context : Context) :
    interpolate content context = String.ofList (substitute context content.toList) := by
  unfold interpolate
  split
  · rename_i early
    have passed : Text.Passed (Begins (PlaceholderRule context)) content.toList [] := by
      intro late suffix _
      rw [List.append_nil]
      exact not_begins_of_early early suffix
    have kept := (scans_substitute context).replaced (.last passed)
    rw [Parts.source, Parts.replaced] at kept
    rw [kept, String.ofList_toList]
  · rfl

/-! ## Contexts that know the same -/

theorem PlaceholderRule.of_agreeing
    (same : ∀ key, Nameable key.toList → other.get? key = context.get? key)
    {mark value : List Char} (rule : PlaceholderRule context mark value) :
    PlaceholderRule other mark value := by
  cases rule with
  | known known =>
      refine .known ⟨known.nameable, ?_⟩
      rw [same _ (by simpa using known.nameable), known.held]

/-- Only keys that can stand in a placeholder count. -/
theorem interpolate_congr
    (same : ∀ key, Nameable key.toList → other.get? key = context.get? key)
    (content : String) : interpolate content other = interpolate content context := by
  have rules : PlaceholderRule other = PlaceholderRule context := by
    funext mark value
    apply propext
    constructor
    · exact PlaceholderRule.of_agreeing fun key nameable => (same key nameable).symm
    · exact PlaceholderRule.of_agreeing same
  have scans : Scans (PlaceholderRule context) (substitute other) := rules ▸ scans_substitute other
  rw [interpolate_eq, interpolate_eq,
    scans.unique (scans_substitute context) (unambiguous_placeholderRule context)]

/-- A text has exactly one cut at known placeholders, leftmost first, and what comes of the
text is put together from that cut: the stretches unchanged and each placeholder replaced
by its value. No known placeholder is left in a stretch, the check made ahead of the scan
changes nothing, and keys that cannot stand in a placeholder make no difference. -/
theorem interpolate_leftmost_first (content : String) (context : Context) :
    ∃ parts : Parts,
      parts.source = content.toList ∧ parts.LeftmostFirst (PlaceholderRule context) ∧
      (∀ other : Parts, other.source = content.toList →
        other.LeftmostFirst (PlaceholderRule context) → other = parts) ∧
      interpolate content context = String.ofList parts.replaced ∧
      interpolate content context = String.ofList (substitute context content.toList) ∧
      (∀ mark ∈ parts.marks, ∃ key value, Known context key value ∧
        mark = (placeholder key, value.toText.toList)) ∧
      (∀ stretch ∈ parts.stretches, ∀ key value, Known context key value →
        ¬ placeholder key <:+: stretch) ∧
      ∀ other : Context,
        (∀ key, Nameable key.toList → other.get? key = context.get? key) →
        interpolate content other = interpolate content context := by
  have unambiguous := unambiguous_placeholderRule context
  obtain ⟨parts, source, leftmost⟩ := Parts.exists_leftmostFirst unambiguous content.toList
  refine ⟨parts, source, leftmost, ?_, ?_, interpolate_eq content context, ?_, ?_, ?_⟩
  · intro other same another
    exact another.unique unambiguous leftmost (same.trans source.symm)
  · rw [interpolate_eq, ← source, (scans_substitute context).replaced leftmost]
  · rintro ⟨mark, value⟩ member
    cases leftmost.marked _ member with
    | known known => exact ⟨_, _, known, rfl⟩
  · intro stretch member key value known
    exact leftmost.not_within unambiguous stretch member _ _ (.known known)
  · intro other same
    exact interpolate_congr same content

/-- Two placeholders among further braces, the value of one of which looks like the other.
The context has a key that ends in a brace, too. -/
theorem interpolate_between_braces :
    let inserted := "\x7b\x7bb\x7d\x7d"
    let context : Context :=
      .ofList [("a", .text inserted), ("b", .text "B"), ("b\x7d", .text "C")]
    let content := "\x7b\x7b\x7ba\x7d\x7d\x7d\x7b\x7bb\x7d\x7d\x7d"
    let parts : Parts :=
      .next ['{'] (placeholder ['a']) inserted.toList <|
        .next ['}'] (placeholder ['b']) "B".toList <|
          .last ['}']
    parts.source = content.toList ∧ parts.LeftmostFirst (PlaceholderRule context) ∧
      interpolate content context = String.ofList parts.replaced ∧
      interpolate content (context.erase "b\x7d") = interpolate content context := by
  intro inserted context content parts
  have source : parts.source = content.toList := by decide +kernel
  have single {char : Char} {after : List Char}
      (nothing : replacement? context (char :: after) = none) :
      Text.Passed (Begins (PlaceholderRule context)) [char] after :=
    passed_cons.2 ⟨replacement?_eq_none.1 nothing, passed_nil _ after⟩
  have nameable (char : Char) (plain : char ≠ '}') : Nameable [char] :=
    nameable_cons.2 ⟨nameable_nil, fun closes => plain closes.1⟩
  have leftmost : parts.LeftmostFirst (PlaceholderRule context) := by
    have a : Known context ['a'] (.text inserted) := ⟨nameable 'a' (by decide), by decide +kernel⟩
    have b : Known context ['b'] (.text "B") := ⟨nameable 'b' (by decide), by decide +kernel⟩
    refine .next (.known a) (single (by decide +kernel)) ?_
    refine .next (.known b) (single (by decide +kernel)) ?_
    exact .last (single (by decide +kernel))
  have others : ∀ key, Nameable key.toList →
      (context.erase "b\x7d").get? key = context.get? key := by
    intro key nameable
    rw [ByKey.get?_erase, if_neg]
    rintro rfl
    exact nameable.2 rfl
  obtain ⟨found, _, _, unique, replaced, _, _, _, same⟩ :=
    interpolate_leftmost_first content context
  cases unique parts source leftmost
  exact ⟨source, leftmost, replaced, same _ others⟩

end BlockMail.Html
