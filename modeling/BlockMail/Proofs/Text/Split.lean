import BlockMail.Text.Split

/-!
# Splitting text in two

A text with a divider in it is split like the texts before and behind it, and is its parts
with the divider between them. The last divider is the one that no other is behind.
-/

set_option autoImplicit false

namespace BlockMail

namespace Text

variable {divider : Char}

/-! ## Every divider -/

theorem splitAt_of_absent {part : List Char} (absent : divider ∉ part) :
    splitAt divider part = [part] := by
  induction part with
  | nil => rfl
  | cons char rest ih =>
      rw [List.mem_cons, not_or] at absent
      obtain ⟨other, later⟩ := absent
      simp [splitAt, Ne.symm other, ih later]

theorem splitAt_ne_nil (text : List Char) : splitAt divider text ≠ [] := by
  cases text with
  | nil => simp [splitAt]
  | cons char rest =>
      simp only [splitAt]
      split
      · simp
      · split <;> simp

theorem splitAt_append_divider (first second : List Char) :
    splitAt divider (first ++ divider :: second) =
      splitAt divider first ++ splitAt divider second := by
  induction first with
  | nil => simp [splitAt]
  | cons char rest ih =>
      simp only [List.cons_append, splitAt, ih]
      split
      · rfl
      · cases parts : splitAt divider rest with
        | nil => exact absurd parts (splitAt_ne_nil rest)
        | cons part others => rfl

/-- A part without the divider is split off whole. -/
theorem splitAt_append_cons {part : List Char} (absent : divider ∉ part) (rest : List Char) :
    splitAt divider (part ++ divider :: rest) = part :: splitAt divider rest := by
  rw [splitAt_append_divider, splitAt_of_absent absent, List.singleton_append]

theorem splitAt_eq_splitOn (text : List Char) :
    splitAt divider text = text.splitOn divider := by
  induction text with
  | nil => rw [List.splitOn_nil, splitAt]
  | cons char rest ih =>
      rw [List.splitOn, List.splitOnP_cons_eq_if_modifyHead, ← List.splitOn, splitAt, ← ih]
      simp only [beq_iff_eq]
      split
      · rfl
      · cases parts : splitAt divider rest with
        | nil => exact absurd parts (splitAt_ne_nil rest)
        | cons part others => rfl

/-- Putting the divider between the parts gives the text back. -/
theorem intercalate_splitAt (text : List Char) :
    [divider].intercalate (splitAt divider text) = text := by
  rw [splitAt_eq_splitOn, List.intercalate_splitOn]

theorem splitAt_intercalate {parts : List (List Char)} (absent : ∀ part ∈ parts, divider ∉ part)
    (notEmpty : parts ≠ []) : splitAt divider ([divider].intercalate parts) = parts := by
  rw [splitAt_eq_splitOn, List.splitOn_intercalate divider absent notEmpty]

theorem not_mem_of_mem_splitAt {text part : List Char} (member : part ∈ splitAt divider text) :
    divider ∉ part := by
  induction text generalizing part with
  | nil =>
      rw [splitAt, List.mem_singleton] at member
      rw [member]
      exact List.not_mem_nil
  | cons char rest ih =>
      rw [splitAt] at member
      split at member
      · rcases List.mem_cons.1 member with rfl | later
        · exact List.not_mem_nil
        · exact ih later
      · rename_i other
        cases parts : splitAt divider rest with
        | nil => exact absurd parts (splitAt_ne_nil rest)
        | cons first others =>
            rw [parts] at member
            rcases List.mem_cons.1 member with rfl | later
            · have absent := ih (parts ▸ List.mem_cons_self)
              exact List.not_mem_cons_of_ne_of_not_mem (Ne.symm other) absent
            · exact ih (parts ▸ List.mem_cons_of_mem _ later)

/-! ## The last divider -/

theorem splitAtLast?_of_absent {text : List Char} (absent : divider ∉ text) :
    splitAtLast? divider text = none := by
  induction text with
  | nil => rfl
  | cons char rest ih =>
      rw [List.mem_cons, not_or] at absent
      obtain ⟨other, later⟩ := absent
      simp [splitAtLast?, ih later, Ne.symm other]

theorem splitAtLast?_append {after : List Char} (absent : divider ∉ after)
    (before : List Char) : splitAtLast? divider (before ++ divider :: after) =
      some (before, after) := by
  induction before with
  | nil => simp [splitAtLast?, splitAtLast?_of_absent absent]
  | cons char rest ih => simp [splitAtLast?, ih]

theorem eq_append_of_splitAtLast? {text before after : List Char}
    (split : splitAtLast? divider text = some (before, after)) :
    text = before ++ divider :: after := by
  induction text generalizing before with
  | nil => simp [splitAtLast?] at split
  | cons char rest ih =>
      cases later : splitAtLast? divider rest with
      | none =>
          simp only [splitAtLast?, later, Option.ite_none_right_eq_some, Option.some.injEq,
            Prod.mk.injEq] at split
          obtain ⟨rfl, rfl, rfl⟩ := split
          rfl
      | some halves =>
          obtain ⟨first, last⟩ := halves
          simp only [splitAtLast?, later, Option.some.injEq, Prod.mk.injEq] at split
          obtain ⟨rfl, rfl⟩ := split
          rw [ih later, List.cons_append]

end Text

end BlockMail
