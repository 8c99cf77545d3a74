import Mathlib.Order.Lattice.Nat
import BlockMail.Proofs.Store.Entry

/-!
# Lineages of forks

A fork names the entry that it was made of, and keeps the name when that is changed or
deleted. As identifiers are used once, what a fork names was in the store before the fork
was, so following the names never comes back to where it started.
-/

set_option autoImplicit false

namespace BlockMail

namespace Store

/-- What the entry under an identifier is a fork of. -/
def origin? (store : Store) (id : DocumentId) : Option DocumentId :=
  (store.entryAt? id).bind Entry.forkedFrom

/-- Identifiers each of which is that of an entry that was forked from the next. -/
def Lineage (store : Store) (path : List DocumentId) : Prop :=
  path.IsChain fun child parent => store.origin? child = some parent

instance (store : Store) (path : List DocumentId) : Decidable (store.Lineage path) :=
  inferInstanceAs (Decidable (path.IsChain _))

/-- What an entry was made by and of. -/
def Entry.SameOrigin (old new : Entry) : Prop :=
  new.owner = old.owner ∧ new.forkedFrom = old.forkedFrom

/-! ## States in which identifiers are used once -/

/-- The states of a store, from the empty one on. Entries keep their origin, and what is
gone does not come back. -/
structure History (state : Nat → Store) (last : Nat) : Prop where
  start : ∀ id, (state 0).entryAt? id = none
  kept : ∀ index < last, ∀ id old new, (state index).entryAt? id = some old →
    (state (index + 1)).entryAt? id = some new → old.SameOrigin new
  gone : ∀ early late id, early ≤ late → late ≤ last → (state early).entryAt? id ≠ none →
    (state late).entryAt? id = none → (state last).entryAt? id = none
  /-- What a fork names was there before the fork. -/
  forked : ∀ index < last, ∀ id copy parent, (state index).entryAt? id = none →
    (state (index + 1)).entryAt? id = some copy → copy.forkedFrom = some parent →
    ∃ seen ≤ index, (state seen).entryAt? parent ≠ none

/-- An entry appeared after a state, was not there before and has been there since. -/
structure Arrival (state : Nat → Store) (last index : Nat) (id : DocumentId) (first : Entry) :
    Prop where
  within : index < last
  absent : ∀ count ≤ index, (state count).entryAt? id = none
  appears : (state (index + 1)).entryAt? id = some first
  stays : ∀ count ≤ last, index < count → (state count).entryAt? id ≠ none

namespace History

variable {state : Nat → Store} {last : Nat}

/-- An entry appeared at some time, with the origin that it has now. -/
theorem appeared (history : History state last) {count : Nat} (within : count ≤ last)
    {id : DocumentId} {entry : Entry} (present : (state count).entryAt? id = some entry) :
    ∃ index < count, ∃ first, (state index).entryAt? id = none ∧
      (state (index + 1)).entryAt? id = some first ∧ first.SameOrigin entry := by
  induction count generalizing entry with
  | zero => cases (history.start id).symm.trans present
  | succ count ih =>
      cases before : (state count).entryAt? id with
      | none => exact ⟨count, Nat.lt_succ_self count, entry, before, present, rfl, rfl⟩
      | some old =>
          obtain ⟨index, earlier, first, absent, appears, origin⟩ :=
            ih (Nat.le_of_succ_le within) before
          have same := history.kept count within id old entry before present
          exact ⟨index, Nat.lt_succ_of_lt earlier, first, absent, appears,
            same.1.trans origin.1, same.2.trans origin.2⟩

/-- An entry that is there at the end arrived at some time, with the origin that it has. -/
theorem arrival (history : History state last) {id : DocumentId} {entry : Entry}
    (present : (state last).entryAt? id = some entry) :
    ∃ index first, Arrival state last index id first ∧ first.SameOrigin entry := by
  obtain ⟨index, within, first, absent, appears, same⟩ :=
    history.appeared (Nat.le_refl last) present
  refine ⟨index, first, ⟨within, ?_, appears, ?_⟩, same⟩
  · -- Had there been an entry before, it would be gone for good by the time of `index`.
    intro early soon
    by_contra found
    have lost := history.gone early index id soon (Nat.le_of_lt within) found absent
    cases lost.symm.trans present
  · intro late short after lost
    have gone := history.gone (index + 1) late id after short (by simp [appears]) lost
    cases gone.symm.trans present

/-- The first time at which there is an entry under an identifier. -/
noncomputable def since (state : Nat → Store) (id : DocumentId) : Nat :=
  sInf {index | (state index).entryAt? id ≠ none}

theorem since_lt (history : History state last) {child parent : DocumentId} {entry : Entry}
    (present : (state last).entryAt? child = some entry)
    (origin : entry.forkedFrom = some parent) : since state parent < since state child := by
  obtain ⟨index, first, arrival, same⟩ := history.arrival present
  obtain ⟨seen, before, there⟩ := history.forked index arrival.within child first parent
    (arrival.absent index (Nat.le_refl index)) arrival.appears (same.2 ▸ origin)
  have parentSince : since state parent ≤ seen := Nat.sInf_le there
  have childThere : (state (since state child)).entryAt? child ≠ none := by
    have somewhere : {index | (state index).entryAt? child ≠ none}.Nonempty :=
      ⟨last, by simp [present]⟩
    exact Nat.sInf_mem somewhere
  have childSince : index < since state child := by
    by_contra soon
    exact childThere (arrival.absent _ (Nat.le_of_not_lt soon))
  omega

/-- Following the names of forks never visits an identifier twice. -/
theorem nodup_lineage (history : History state last) {path : List DocumentId}
    (lineage : (state last).Lineage path) : path.Nodup := by
  have falling : path.IsChain fun child parent => since state parent < since state child := by
    refine List.IsChain.imp ?_ lineage
    intro child parent forked
    obtain ⟨entry, present, origin⟩ := Option.bind_eq_some_iff.1 forked
    exact history.since_lt present origin
  have pairwise := List.isChain_iff_pairwise.1 falling
  apply pairwise.imp
  rintro child parent less rfl
  exact Nat.lt_irrefl _ less

end History

end Store

end BlockMail
