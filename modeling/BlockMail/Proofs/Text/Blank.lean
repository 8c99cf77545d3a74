import Mathlib.Data.List.DropRight
import BlockMail.Text.Blank

/-!
# Blanks at the end of a text

Trimming the end of a text takes off blanks and nothing else, and goes on until the last
character is not one.
-/

set_option autoImplicit false

namespace BlockMail

private theorem rdropWhile_cons {Element : Type} (test : Element → Bool) (first : Element)
    (rest : List Element) :
    (first :: rest).rdropWhile test =
      if rest.rdropWhile test = [] then (if test first then [] else [first])
      else first :: rest.rdropWhile test := by
  simp only [List.rdropWhile, List.reverse_cons, List.dropWhile_append, List.reverse_eq_nil_iff,
    List.isEmpty_iff]
  split
  · by_cases passes : test first = true <;> simp [passes]
  · simp

namespace Text

theorem trimEnd_eq (text : List Char) : trimEnd text = text.rdropWhile isBlank := by
  induction text with
  | nil => rfl
  | cons first rest ih =>
      rw [rdropWhile_cons, trimEnd, ih]
      split
      · rename_i nothing
        rw [if_pos nothing]
      · rename_i something
        rw [if_neg something]

/-- Whether there is something to see in a text. -/
def visible (text : List Char) : Bool := text.any fun char => !isBlank char

/-- The characters of a text that can be seen. -/
def ink (text : List Char) : List Char := text.filter fun char => !isBlank char

/-- No blank at the end. -/
def Trimmed (text : List Char) : Prop := ∀ char, text.getLast? = some char → isBlank char = false

theorem visible_eq_false {text : List Char} :
    visible text = false ↔ ∀ char ∈ text, isBlank char = true := by
  simp [visible]

theorem ink_eq_nil {text : List Char} : ink text = [] ↔ visible text = false := by
  simp [ink, visible_eq_false]

theorem trimEnd_eq_nil {text : List Char} : trimEnd text = [] ↔ visible text = false := by
  rw [trimEnd_eq, List.rdropWhile_eq_nil_iff, visible_eq_false]

theorem trimEnd_eq_self {text : List Char} : trimEnd text = text ↔ Trimmed text := by
  rw [trimEnd_eq, List.rdropWhile_eq_self_iff]
  constructor
  · intro ends char last
    obtain ⟨front, rfl⟩ := List.getLast?_eq_some_iff.1 last
    simpa using ends
  · intro trimmed notEmpty
    simpa using trimmed _ (List.getLast?_eq_some_getLast notEmpty)

theorem trimmed_trimEnd (text : List Char) : Trimmed (trimEnd text) := by
  rw [← trimEnd_eq_self, trimEnd_eq, trimEnd_eq, List.rdropWhile_idempotent]

theorem trimEnd_subset (text : List Char) : trimEnd text ⊆ text := by
  rw [trimEnd_eq]
  exact List.IsPrefix.subset <| List.rdropWhile_prefix _ _

theorem trimEnd_append {blanks : List Char} (unseen : visible blanks = false)
    (text : List Char) : trimEnd (text ++ blanks) = trimEnd text := by
  rw [visible_eq_false] at unseen
  rw [trimEnd_eq, trimEnd_eq, List.rdropWhile, List.reverse_append,
    List.dropWhile_append_of_pos fun char member => unseen char (List.mem_reverse.1 member)]
  rfl

@[simp] theorem ink_trimEnd (text : List Char) : ink (trimEnd text) = ink text := by
  have blanks : ink (text.rtakeWhile isBlank) = [] := by
    rw [ink_eq_nil, visible_eq_false]
    intro char member
    exact List.mem_rtakeWhile_imp member
  calc ink (trimEnd text)
      = ink (text.rdropWhile isBlank) ++ ink (text.rtakeWhile isBlank) := by
        rw [trimEnd_eq, blanks, List.append_nil]
    _ = ink (text.rdropWhile isBlank ++ text.rtakeWhile isBlank) :=
        (List.filter_append _ _).symm
    _ = ink text := by rw [List.rdropWhile_append_rtakeWhile]

@[simp] theorem visible_trimEnd (text : List Char) : visible (trimEnd text) = visible text := by
  rw [Bool.eq_iff_iff, ← not_iff_not, Bool.not_eq_true, Bool.not_eq_true, ← ink_eq_nil,
    ← ink_eq_nil, ink_trimEnd]

/-- A trimmed text without anything to see is empty. -/
theorem Trimmed.visible_iff {text : List Char} (trimmed : Trimmed text) :
    visible text = true ↔ text ≠ [] := by
  have empty : text = [] ↔ visible text = false := by
    rw [← trimEnd_eq_nil, trimEnd_eq_self.2 trimmed]
  rw [ne_eq, empty, Bool.not_eq_false]

end Text

end BlockMail
