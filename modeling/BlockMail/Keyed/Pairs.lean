/-!
# Lists of keyed values

Reading, writing and removing one key of a list of pairs. A written key keeps
its place when it is present and goes to the end otherwise, so the order of a
list is the order in which its keys first arrived.
-/

set_option autoImplicit false

namespace BlockMail.Keyed

variable {Key Value : Type} [DecidableEq Key]

def lookup (key : Key) : List (Key × Value) → Option Value
  | [] => none
  | (present, value) :: rest =>
      if present = key then some value else lookup key rest

/-- Replaces the value of the first pair with this key, or appends a pair. -/
def put (key : Key) (value : Value) : List (Key × Value) → List (Key × Value)
  | [] => [(key, value)]
  | (present, old) :: rest =>
      if present = key then (present, value) :: rest
      else (present, old) :: put key value rest

/-- Removes the first pair with this key; all other pairs keep their order. -/
def remove (key : Key) : List (Key × Value) → List (Key × Value)
  | [] => []
  | (present, value) :: rest =>
      if present = key then rest else (present, value) :: remove key rest

/-- Writing a key adds it to the keys only when it is absent. -/
theorem keys_put (key : Key) (value : Value) (pairs : List (Key × Value)) :
    (put key value pairs).map Prod.fst =
      if key ∈ pairs.map Prod.fst then pairs.map Prod.fst
      else pairs.map Prod.fst ++ [key] := by
  induction pairs with
  | nil => simp [put]
  | cons pair rest ih =>
      obtain ⟨present, old⟩ := pair
      by_cases same : present = key
      · simp [put, same]
      · have other : ¬ key = present := fun equal => same equal.symm
        simp only [put, if_neg same, List.map_cons, ih, List.mem_cons, other,
          false_or]
        split <;> simp_all

/-- No key is written twice. -/
theorem nodup_put {key : Key} (value : Value) {pairs : List (Key × Value)}
    (distinct : (pairs.map Prod.fst).Nodup) : ((put key value pairs).map Prod.fst).Nodup := by
  rw [keys_put]
  split
  · exact distinct
  · rename_i absent
    rw [List.nodup_append]
    refine ⟨distinct, by simp, ?_⟩
    rintro left member right single rfl
    exact absent (List.mem_singleton.1 single ▸ member)

/-- A pair that is there after a write was written, or was there before. -/
theorem mem_put {key : Key} {value : Value} {pair : Key × Value} {pairs : List (Key × Value)}
    (member : pair ∈ put key value pairs) : pair = (key, value) ∨ pair ∈ pairs := by
  induction pairs with
  | nil => exact .inl (List.mem_singleton.1 member)
  | cons first rest ih =>
      obtain ⟨present, old⟩ := first
      unfold put at member
      split at member
      · rename_i same
        rw [same] at member
        rcases List.mem_cons.1 member with written | kept
        · exact .inl written
        · exact .inr (List.mem_cons_of_mem _ kept)
      · rcases List.mem_cons.1 member with rfl | later
        · exact .inr List.mem_cons_self
        · exact (ih later).imp_right (List.mem_cons_of_mem _)

/-- An absent key is written at the end. -/
theorem put_of_absent {key : Key} {value : Value} {pairs : List (Key × Value)}
    (absent : key ∉ pairs.map Prod.fst) : put key value pairs = pairs ++ [(key, value)] := by
  induction pairs with
  | nil => rfl
  | cons pair rest ih =>
      obtain ⟨present, old⟩ := pair
      simp only [List.map_cons, List.mem_cons, not_or] at absent
      simp [put, Ne.symm absent.1, ih absent.2]

/-- The keys after a removal are among the keys before it, in order. -/
theorem keys_remove_sublist (key : Key) (pairs : List (Key × Value)) :
    ((remove key pairs).map Prod.fst).Sublist (pairs.map Prod.fst) := by
  induction pairs with
  | nil => simp [remove]
  | cons pair rest ih =>
      obtain ⟨present, value⟩ := pair
      by_cases same : present = key
      · simp [remove, same]
      · simpa [remove, same] using ih

end BlockMail.Keyed
