import BlockMail.Keyed.ByKey
import BlockMail.Keyed.Pairs

/-!
# The order of keyed values

Where a key stands after it was written, and what is left when one is removed. A written
key keeps its place or goes to the end, and no other pair is touched.
-/

set_option autoImplicit false

namespace BlockMail.Keyed

/-- Of two values written under one key the second stays. -/
theorem insertSorted_twice {Value : Type} (key : String) (first second : Value)
    (pairs : List (String × Value)) :
    insertSorted key second (insertSorted key first pairs) = insertSorted key second pairs := by
  induction pairs with
  | nil => simp [insertSorted]
  | cons pair rest ih =>
      obtain ⟨present, old⟩ := pair
      by_cases before : key < present
      · simp [insertSorted, before]
      · by_cases same : key = present
        · simp [insertSorted, same]
        · simp [insertSorted, before, same, ih]

variable {Key Value : Type}

/-- Pairs before and after a key is written: its value is replaced where it stands, or a
pair is put at the end. -/
inductive Written (key : Key) (value : Value) :
    List (Key × Value) → List (Key × Value) → Prop where
  | replaced (before after : List (Key × Value)) {old : Value} :
      key ∉ before.map Prod.fst →
      Written key value (before ++ (key, old) :: after) (before ++ (key, value) :: after)
  | appended {pairs : List (Key × Value)} :
      key ∉ pairs.map Prod.fst → Written key value pairs (pairs ++ [(key, value)])

/-- Pairs before and after a key is removed. -/
inductive Removed (key : Key) : List (Key × Value) → List (Key × Value) → Prop where
  | dropped (before after : List (Key × Value)) {old : Value} :
      key ∉ (before ++ after).map Prod.fst →
      Removed key (before ++ (key, old) :: after) (before ++ after)
  | absent {pairs : List (Key × Value)} : key ∉ pairs.map Prod.fst → Removed key pairs pairs

theorem Written.cons {key : Key} {value : Value} {pairs written : List (Key × Value)}
    {pair : Key × Value} (different : key ≠ pair.1) (others : Written key value pairs written) :
    Written key value (pair :: pairs) (pair :: written) := by
  cases others with
  | replaced before after absent =>
      refine .replaced (pair :: before) after ?_
      exact List.not_mem_cons_of_ne_of_not_mem different absent
  | appended absent =>
      exact .appended (List.not_mem_cons_of_ne_of_not_mem different absent)

theorem Removed.cons {key : Key} {pairs left : List (Key × Value)} {pair : Key × Value}
    (different : key ≠ pair.1) (others : Removed key pairs left) :
    Removed key (pair :: pairs) (pair :: left) := by
  cases others with
  | dropped before after absent =>
      refine .dropped (pair :: before) after ?_
      exact List.not_mem_cons_of_ne_of_not_mem different absent
  | absent absent => exact .absent (List.not_mem_cons_of_ne_of_not_mem different absent)

variable [DecidableEq Key]

theorem written_put (key : Key) (value : Value) (pairs : List (Key × Value)) :
    Written key value pairs (put key value pairs) := by
  induction pairs with
  | nil => exact .appended List.not_mem_nil
  | cons pair rest ih =>
      obtain ⟨present, old⟩ := pair
      unfold put
      split
      · rename_i same
        subst same
        exact .replaced [] rest List.not_mem_nil
      · rename_i different
        exact ih.cons (Ne.symm different)

/-- Where no key stands twice, a removed key is gone. -/
theorem removed_remove (key : Key) {pairs : List (Key × Value)}
    (distinct : (pairs.map Prod.fst).Nodup) : Removed key pairs (remove key pairs) := by
  induction pairs with
  | nil => exact .absent List.not_mem_nil
  | cons pair rest ih =>
      obtain ⟨present, old⟩ := pair
      obtain ⟨alone, distinct⟩ := List.nodup_cons.1 distinct
      unfold remove
      split
      · rename_i same
        subst same
        exact .dropped [] rest alone
      · rename_i different
        exact (ih distinct).cons (Ne.symm different)

/-- Two keys that are there can be written in either order. -/
theorem put_comm {key other : Key} (different : key ≠ other) (value another : Value)
    {pairs : List (Key × Value)} (there : key ∈ pairs.map Prod.fst)
    (alsoThere : other ∈ pairs.map Prod.fst) :
    put key value (put other another pairs) = put other another (put key value pairs) := by
  induction pairs with
  | nil => cases there
  | cons pair rest ih =>
      obtain ⟨present, old⟩ := pair
      by_cases first : present = key
      · have notOther : present ≠ other := fun same => different (first.symm.trans same)
        simp only [put, if_pos first, if_neg notOther]
      · by_cases second : present = other
        · simp only [put, if_neg first, if_pos second]
        · simp only [put, if_neg first, if_neg second]
          have inRest := List.mem_of_ne_of_mem (Ne.symm first) there
          have alsoInRest := List.mem_of_ne_of_mem (Ne.symm second) alsoThere
          rw [ih inRest alsoInRest]

end BlockMail.Keyed
