import BlockMail.Keyed.Pairs

/-!
# Maps in order of arrival

A finite map from text to values that remembers the order in which its keys
were first written. No key occurs twice.
-/

set_option autoImplicit false

namespace BlockMail

/-- Pairs with pairwise distinct keys, in order of arrival. -/
structure ByArrival (Value : Type) where
  entries : List (String × Value)
  distinct : (entries.map Prod.fst).Nodup
deriving DecidableEq

namespace ByArrival

variable {Value : Type}

/-- The map without entries. -/
def empty : ByArrival Value := ⟨[], by simp⟩

def get? (map : ByArrival Value) (key : String) : Option Value :=
  Keyed.lookup key map.entries

/-- The map in which a key has a value. A present key keeps its place and a new
one goes to the end. -/
def insert (map : ByArrival Value) (key : String) (value : Value) :
    ByArrival Value where
  entries := Keyed.put key value map.entries
  distinct := Keyed.nodup_put value map.distinct

def erase (map : ByArrival Value) (key : String) : ByArrival Value where
  entries := Keyed.remove key map.entries
  distinct := (Keyed.keys_remove_sublist key map.entries).nodup map.distinct

/-- The map that results from writing pairs one after the other. -/
def ofList (pairs : List (String × Value)) : ByArrival Value :=
  pairs.foldl (fun map pair => map.insert pair.1 pair.2) empty

def isEmpty (map : ByArrival Value) : Bool := map.entries.isEmpty

end ByArrival

end BlockMail
