import BlockMail.Keyed.ByKey
import BlockMail.Keyed.Pairs

/-!
# Looking up what was written

What a map in order of its keys holds under each key after one key was written
or removed. No law here needs the order of the keys.
-/

set_option autoImplicit false

namespace BlockMail

namespace Keyed

variable {Value : Type}

theorem lookup_put {Key : Type} [DecidableEq Key] (written key : Key)
    (value : Value) (pairs : List (Key × Value)) :
    lookup key (put written value pairs) =
      if key = written then some value else lookup key pairs := by
  induction pairs with
  | nil =>
      by_cases same : key = written
      · simp [put, lookup, same]
      · simp [put, lookup, same, Ne.symm same]
  | cons pair rest ih =>
      obtain ⟨present, old⟩ := pair
      by_cases here : present = written
      · by_cases same : key = written
        · simp [put, lookup, here, same]
        · simp [put, lookup, here, same, Ne.symm same]
      · by_cases found : present = key
        · have other : key ≠ written := fun same => here (found.trans same)
          simp [put, lookup, found, other]
        · simp [put, lookup, here, found, ih]

/-- Where no key is written twice, each is looked up to the value beside it. -/
theorem lookup_of_mem {Key : Type} [DecidableEq Key] {key : Key} {value : Value}
    {pairs : List (Key × Value)} (distinct : (pairs.map Prod.fst).Nodup)
    (member : (key, value) ∈ pairs) : lookup key pairs = some value := by
  induction pairs with
  | nil => cases member
  | cons pair rest ih =>
      obtain ⟨absent, distinct⟩ := List.nodup_cons.1 distinct
      rcases List.mem_cons.1 member with rfl | later
      · exact if_pos rfl
      · have other : pair.1 ≠ key := by
          rintro rfl
          exact absent (List.mem_map.2 ⟨_, later, rfl⟩)
        rw [lookup, if_neg other, ih distinct later]

theorem lookup_eq_find? (key : String) (pairs : List (String × Value)) :
    lookup key pairs = (pairs.find? fun pair => pair.1 == key).map Prod.snd := by
  induction pairs with
  | nil => rfl
  | cons pair rest ih =>
      obtain ⟨present, value⟩ := pair
      by_cases same : present = key
      · simp [lookup, same]
      · simp [lookup, same, ih]

/-- The pair with a written key is the written one, and every other key keeps
the pair it had. -/
theorem find?_insertSorted (written key : String) (value : Value)
    (pairs : List (String × Value)) :
    (insertSorted written value pairs).find? (fun pair => pair.1 == key) =
      if key = written then some (written, value)
      else pairs.find? fun pair => pair.1 == key := by
  induction pairs with
  | nil =>
      by_cases same : key = written
      · simp [insertSorted, same]
      · simp [insertSorted, same, Ne.symm same]
  | cons pair rest ih =>
      obtain ⟨present, old⟩ := pair
      simp only [insertSorted]
      split
      · by_cases same : key = written
        · simp [same]
        · simp [same, Ne.symm same]
      · split
        · rename_i equal
          subst equal
          by_cases same : key = written
          · simp [same]
          · simp [same, Ne.symm same]
        · rename_i different
          by_cases here : present = key
          · have other : key ≠ written := fun same => different (same ▸ here.symm)
            simp [here, other]
          · simp only [List.find?_cons, beq_eq_false_iff_ne.2 here, ih]

/-- Where no two elements share a key, each is found under its own. -/
theorem find?_key_of_mem {Element : Type} (key : Element → String) {elements : List Element}
    (distinct : (elements.map key).Nodup) {element : Element} (member : element ∈ elements) :
    elements.find? (fun other => key other == key element) = some element := by
  induction elements with
  | nil => cases member
  | cons first rest ih =>
      obtain ⟨absent, distinct⟩ := List.nodup_cons.1 distinct
      rcases List.mem_cons.1 member with rfl | later
      · simp
      · have other : key first ≠ key element := by
          intro same
          exact absent (same ▸ List.mem_map_of_mem later)
        simp [other, ih distinct later]

end Keyed

namespace ByKey

variable {Value : Type}

@[simp] theorem get?_empty (key : String) :
    (empty : ByKey Value).get? key = none := rfl

theorem nodup_keys (map : ByKey Value) : (map.entries.map Prod.fst).Nodup := by
  rw [List.Nodup, List.pairwise_map]
  apply map.ascending.imp
  intro left right before same
  exact String.lt_irrefl _ (same ▸ before)

theorem get?_eq_some_iff {map : ByKey Value} {key : String} {value : Value} :
    map.get? key = some value ↔ (key, value) ∈ map.entries := by
  unfold get?
  constructor
  · intro found
    obtain ⟨pair, there, rfl⟩ := Option.map_eq_some_iff.1 found
    have named : pair.1 = key := by simpa using List.find?_some there
    exact named ▸ List.mem_of_find?_eq_some there
  · intro member
    rw [Keyed.find?_key_of_mem Prod.fst map.nodup_keys member]
    rfl

theorem get?_insert (map : ByKey Value) (written key : String) (value : Value) :
    (map.insert written value).get? key =
      if key = written then some value else map.get? key := by
  unfold get? insert
  rw [Keyed.find?_insertSorted]
  split <;> rfl

theorem get?_erase (map : ByKey Value) (removed key : String) :
    (map.erase removed).get? key =
      if key = removed then none else map.get? key := by
  unfold get? erase
  rw [List.find?_filter]
  by_cases same : key = removed
  · subst same
    simp
  · rw [if_neg same]
    congr 2
    funext pair
    by_cases here : pair.1 = key
    · simp [here, same]
    · simp [here]

theorem mem_keys_insert {map : ByKey Value} {written key : String} {value : Value} :
    key ∈ (map.insert written value).entries.map Prod.fst ↔
      key = written ∨ key ∈ map.entries.map Prod.fst := by
  have mem_keys (map : ByKey Value) :
      key ∈ map.entries.map Prod.fst ↔ ∃ value, map.get? key = some value := by
    simp [get?_eq_some_iff]
  rw [mem_keys, mem_keys, get?_insert]
  split
  · rename_i same
    simp [same]
  · rename_i different
    simp [different]

theorem mem_keys_ofList {pairs : List (String × Value)} {key : String} :
    key ∈ (ofList pairs).entries.map Prod.fst ↔ key ∈ pairs.map Prod.fst := by
  have written (map : ByKey Value) :
      key ∈ (pairs.foldl (fun map pair => map.insert pair.1 pair.2) map).entries.map Prod.fst ↔
        key ∈ pairs.map Prod.fst ∨ key ∈ map.entries.map Prod.fst := by
    induction pairs generalizing map with
    | nil => simp
    | cons first rest ih =>
        rw [List.foldl_cons, ih, mem_keys_insert, List.map_cons, List.mem_cons, or_left_comm,
          or_assoc]
  rw [ofList, written]
  simp [empty]

end ByKey

end BlockMail
