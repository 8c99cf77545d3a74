import BlockMail.Template.Scalar

/-!
# Placeholders

A placeholder is a key between double braces. Text is scanned once from the
left: a placeholder whose key the context knows is replaced by the text of its
value, anything else is copied. Replaced text is not scanned again, so the
result does not depend on the order of the context.
-/

set_option autoImplicit false

namespace BlockMail.Html

/-- The text before and after the first pair of closing braces. -/
def splitAtClosing? : List Char → Option (List Char × List Char)
  | [] => none
  | '}' :: '}' :: rest => some ([], rest)
  | char :: rest =>
      (splitAtClosing? rest).map fun (before, after) => (char :: before, after)

/-- The key of a placeholder at the front of a text, and the text after it. -/
def placeholder? : List Char → Option (List Char × List Char)
  | '{' :: '{' :: rest => splitAtClosing? rest
  | _ => none

/-- The value of a placeholder at the front of a text, if the context knows its
key, and the text after it. -/
def replacement? (context : Context) (text : List Char) :
    Option (List Char × List Char) := do
  let (key, after) ← placeholder? text
  let value ← context.get? (String.ofList key)
  return (value.toText.toList, after)

theorem length_of_splitAtClosing? {text before after : List Char}
    (found : splitAtClosing? text = some (before, after)) :
    after.length < text.length := by
  fun_induction splitAtClosing? text generalizing before after with
  | case1 => simp at found
  | case2 rest =>
      simp only [Option.some.injEq, Prod.mk.injEq] at found
      simp only [← found.2, List.length_cons]
      omega
  | case3 char rest _ ih =>
      obtain ⟨⟨inner, tail⟩, split, equal⟩ := Option.map_eq_some_iff.1 found
      simp only [Prod.mk.injEq] at equal
      have shorter := ih split
      rw [← equal.2, List.length_cons]
      omega

theorem length_of_replacement? {context : Context}
    {text value after : List Char}
    (found : replacement? context text = some (value, after)) :
    after.length < text.length := by
  simp only [replacement?, Option.bind_eq_bind, Option.bind_eq_some_iff] at found
  obtain ⟨⟨key, rest⟩, shape, scalar, _, equal⟩ := found
  simp only [Option.pure_def, Option.some.injEq, Prod.mk.injEq] at equal
  obtain ⟨_, rfl⟩ := equal
  unfold placeholder? at shape
  split at shape
  · have shorter := length_of_splitAtClosing? shape
    simp only [List.length_cons]
    omega
  · simp at shape

/-- Replaces the placeholders of a text, from the left. -/
def substitute (context : Context) (text : List Char) : List Char :=
  match text with
  | [] => []
  | char :: rest =>
      match _found : replacement? context (char :: rest) with
      | some (value, after) => value ++ substitute context after
      | none => char :: substitute context rest
termination_by text.length
decreasing_by
  · exact length_of_replacement? _found
  · simp

/-- Whether double opening braces occur in a text. -/
def hasOpening : List Char → Bool
  | '{' :: '{' :: _ => true
  | _ :: rest => hasOpening rest
  | [] => false

/-- The content with its known placeholders replaced. Without a context or
without an opening there is nothing to replace. -/
def interpolate (content : String) (context : Context) : String :=
  if context.isEmpty || !hasOpening content.toList then content
  else String.ofList (substitute context content.toList)

end BlockMail.Html
