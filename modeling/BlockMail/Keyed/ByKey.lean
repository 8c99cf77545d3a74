/-!
# Maps in order of their keys

A finite map kept as a list of pairs in strictly ascending key order, so a map
has one representation and no key occurs twice.
-/

set_option autoImplicit false

namespace BlockMail

namespace Keyed

variable {Value : Type}

/-- Writes a pair into an ascending list, replacing a pair with its key. -/
def insertSorted (key : String) (value : Value) :
    List (String × Value) → List (String × Value)
  | [] => [(key, value)]
  | (present, old) :: rest =>
      if key < present then (key, value) :: (present, old) :: rest
      else if key = present then (key, value) :: rest
      else (present, old) :: insertSorted key value rest

/-- Ascending order of keys, which rules out repeated keys. -/
def Ascending (pairs : List (String × Value)) : Prop :=
  pairs.Pairwise fun left right => left.1 < right.1

theorem mem_insertSorted {key : String} {value : Value}
    {pair : String × Value} {pairs : List (String × Value)}
    (member : pair ∈ insertSorted key value pairs) :
    pair = (key, value) ∨ pair ∈ pairs := by
  induction pairs with
  | nil => simpa [insertSorted] using member
  | cons head rest ih =>
      obtain ⟨present, old⟩ := head
      simp only [insertSorted] at member
      split at member
      · simp_all
      · split at member
        · simp only [List.mem_cons] at member ⊢
          exact member.imp_right .inr
        · simp only [List.mem_cons] at member
          rcases member with rfl | member
          · simp
          · rcases ih member with rfl | inRest <;> simp_all

theorem ascending_insertSorted (key : String) (value : Value)
    {pairs : List (String × Value)} (ascending : Ascending pairs) :
    Ascending (insertSorted key value pairs) := by
  induction pairs with
  | nil => simp [insertSorted, Ascending]
  | cons head rest ih =>
      obtain ⟨present, old⟩ := head
      obtain ⟨above, tail⟩ := List.pairwise_cons.1 ascending
      simp only [insertSorted]
      split
      · rename_i before
        exact List.pairwise_cons.2 ⟨fun pair member => by
          simp only [List.mem_cons] at member
          rcases member with rfl | member
          · exact before
          · exact String.lt_trans before (above pair member), ascending⟩
      · split
        · rename_i same
          subst same
          exact List.pairwise_cons.2 ⟨above, tail⟩
        · rename_i notBefore different
          refine List.pairwise_cons.2 ⟨fun pair member => ?_, ih tail⟩
          rcases mem_insertSorted member with rfl | inRest
          · exact Std.lt_of_le_of_ne (String.not_lt.1 notBefore)
              fun equal => different equal.symm
          · exact above pair inRest

end Keyed

/-- Pairs in strictly ascending order of their keys. -/
structure ByKey (Value : Type) where
  entries : List (String × Value)
  ascending : Keyed.Ascending entries

namespace ByKey

variable {Value : Type}

/-- The map without entries. -/
def empty : ByKey Value := ⟨[], List.Pairwise.nil⟩

def get? (map : ByKey Value) (key : String) : Option Value :=
  (map.entries.find? fun pair => pair.1 == key).map Prod.snd

def insert (map : ByKey Value) (key : String) (value : Value) : ByKey Value where
  entries := Keyed.insertSorted key value map.entries
  ascending := Keyed.ascending_insertSorted key value map.ascending

def erase (map : ByKey Value) (key : String) : ByKey Value where
  entries := map.entries.filter fun pair => pair.1 != key
  ascending := List.Pairwise.filter _ map.ascending

/-- The map that results from writing pairs one after the other. -/
def ofList (pairs : List (String × Value)) : ByKey Value :=
  pairs.foldl (fun map pair => map.insert pair.1 pair.2) empty

/-- All entries of both maps; where both have a key, the overlay's value. -/
def overlay (base extra : ByKey Value) : ByKey Value :=
  extra.entries.foldl (fun map pair => map.insert pair.1 pair.2) base

def isEmpty (map : ByKey Value) : Bool := map.entries.isEmpty

/-- The values in order of their keys. -/
def values (map : ByKey Value) : List Value := map.entries.map Prod.snd

end ByKey

end BlockMail
