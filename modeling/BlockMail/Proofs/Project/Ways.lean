import BlockMail.Proofs.Project.Places

/-!
# The places on a way

A path leads over the places that its parts reach one after the other, whatever is there.
Parts that stay where one is make no difference to them. A path leads to a directory exactly
if there is a directory at each of these places.
-/

set_option autoImplicit false

namespace BlockMail

namespace Project

namespace Path

/-- The parts that lead on from where one is. -/
def moves (parts : List String) : List String :=
  parts.filter fun part => part != "" && part != "."

/-- The parts of a path that lead on. -/
def steps (path : Path) : List String := moves (way path.text.toList)

theorem moves_append (first second : List String) :
    moves (first ++ second) = moves first ++ moves second := List.filter_append ..

theorem moves_of_here {part : String} (here : part = "" ∨ part = ".") (rest : List String) :
    moves (part :: rest) = moves rest :=
  List.filter_cons_of_neg (by rcases here with rfl | rfl <;> decide)

theorem moves_of_on {part : String} (on : ¬(part = "" ∨ part = ".")) (rest : List String) :
    moves (part :: rest) = part :: moves rest :=
  List.filter_cons_of_pos (by simpa using on)

theorem mem_moves {part : String} {parts : List String} :
    part ∈ moves parts ↔ part ∈ parts ∧ ¬(part = "" ∨ part = ".") := by
  simp [moves]

theorem moves_way_divided {before : List Char}
    (divided : before = [] ∨ before.getLast? = some '/') :
    moves (way before) = moves (wayTo before) := by
  rcases divided with rfl | last
  · rfl
  · obtain ⟨above, rfl⟩ := List.getLast?_eq_some_iff.1 last
    have filled : above ++ ['/'] ≠ [] := by simp
    rw [way_append_slash, wayTo, if_neg filled, List.dropLast_concat, moves_append]
    exact List.append_nil _

/-- What carries no meaning at the end of a path has no part that leads on. -/
theorem moves_way_dropReversedEnd (reversed : List Char) :
    moves (way (dropReversedEnd reversed).reverse) = moves (way reversed.reverse) := by
  induction reversed using dropReversedEnd.induct with
  | case1 next rest ih =>
      rw [dropReversedEnd, ih, List.reverse_cons (a := '/'), way_append_slash, moves_append]
      exact (List.append_nil _).symm
  | case2 rest ih =>
      rw [dropReversedEnd, ih, List.reverse_cons, List.reverse_cons, List.reverse_cons,
        List.append_assoc, List.singleton_append, way_append_slash, way_append_slash,
        moves_append, moves_append]
      rfl
  | case3 reversed other others =>
      rw [dropReversedEnd]
      · exact other
      · exact others

end Path

namespace FileTree

open BlockMail.Project.Path

variable {tree : FileTree} {place reached : List String} {parts : List String}

/-- Where parts lead from a place, whatever is there. -/
def reach (place : List String) (parts : List String) : List String := parts.foldl next place

/-- The places that parts lead over, from the first to the last. -/
def stops (place : List String) : List String → List (List String)
  | [] => [place]
  | part :: rest => place :: stops (next place part) rest

theorem reach_append (place : List String) (first second : List String) :
    reach place (first ++ second) = reach (reach place first) second := List.foldl_append ..

theorem mem_stops_start (place : List String) (parts : List String) :
    place ∈ stops place parts := by
  cases parts <;> simp [stops]

theorem mem_stops_append {place : List String} {first second : List String} {stop : List String} :
    stop ∈ stops place (first ++ second) ↔
      stop ∈ stops place first ∨ stop ∈ stops (reach place first) second := by
  induction first generalizing place with
  | nil =>
      refine ⟨.inr, fun found => found.elim ?_ id⟩
      intro start
      rw [List.mem_singleton.1 start]
      exact mem_stops_start place second
  | cons part rest ih =>
      rw [List.cons_append, stops, List.mem_cons, ih, stops, List.mem_cons, or_assoc]
      rfl

theorem mem_stops_reach (place : List String) (parts : List String) :
    reach place parts ∈ stops place parts := by
  induction parts generalizing place with
  | nil => exact List.mem_singleton_self _
  | cons part rest ih => exact List.mem_cons_of_mem _ (ih _)

theorem next_of_here {part : String} (here : part = "" ∨ part = ".") (place : List String) :
    next place part = place := if_pos here

theorem reach_moves (place : List String) (parts : List String) :
    reach place (moves parts) = reach place parts := by
  induction parts generalizing place with
  | nil => rfl
  | cons part rest ih =>
      by_cases here : part = "" ∨ part = "."
      · rw [moves_of_here here, ih, reach, reach, List.foldl_cons, next_of_here here]
      · rw [moves_of_on here]
        exact ih _

theorem mem_stops_moves {stop : List String} :
    stop ∈ stops place (moves parts) ↔ stop ∈ stops place parts := by
  induction parts generalizing place with
  | nil => rfl
  | cons part rest ih =>
      by_cases here : part = "" ∨ part = "."
      · rw [moves_of_here here, ih, stops, next_of_here here, List.mem_cons]
        exact ⟨.inr, fun found => found.elim (fun start => start ▸ mem_stops_start _ _) id⟩
      · rw [moves_of_on here, stops, stops, List.mem_cons, List.mem_cons, ih]

/-! ## Following a way -/

theorem reach_of_follow (followed : tree.follow place parts = .ok reached) :
    reach place parts = reached := by
  induction parts generalizing place with
  | nil => exact Except.ok.inj followed
  | cons part rest ih => exact ih (follow_cons_eq_ok.1 followed).2.2

theorem reach_of_locate {path : Path} (located : tree.locate path = .ok reached) :
    reach [] path.steps = reached := by
  rw [Path.steps, reach_moves]
  exact reach_of_follow (locate_eq_ok.1 located).2

theorem follow_of_stops (short : ∀ part ∈ parts, part.utf8ByteSize ≤ longestName)
    (there : ∀ stop ∈ stops place parts, tree.get? stop = some .directory) :
    tree.follow place parts = .ok (reach place parts) := by
  induction parts generalizing place with
  | nil => rfl
  | cons part rest ih =>
      obtain ⟨shortHere, short⟩ := List.forall_mem_cons.1 short
      obtain ⟨here, there⟩ := List.forall_mem_cons.1 there
      exact follow_cons_eq_ok.2 ⟨here, shortHere, ih short there⟩

theorem short_of_moves (short : ∀ part ∈ moves parts, part.utf8ByteSize ≤ longestName) :
    ∀ part ∈ parts, part.utf8ByteSize ≤ longestName := by
  intro part member
  by_cases here : part = "" ∨ part = "."
  · rcases here with rfl | rfl <;> decide
  · exact short part (mem_moves.2 ⟨member, here⟩)

/-- There is a directory or nothing at a place. -/
def Open (tree : FileTree) (place : List String) : Prop :=
  tree.get? place = some .directory ∨ tree.get? place = none

/-- Where no file stands on a way, there are directories all along it, or what it leads to is
not found. -/
theorem follow_of_open (short : ∀ part ∈ parts, part.utf8ByteSize ≤ longestName)
    (passable : ∀ stop ∈ stops place parts, tree.Open stop) :
    (∀ stop ∈ stops place parts, tree.get? stop = some .directory) ∨
      ∀ part, tree.follow place (parts ++ [part]) = .error .notFound := by
  induction parts generalizing place with
  | nil =>
      rcases passable place (mem_stops_start _ _) with directory | nothing
      · exact .inl (by simpa [stops] using directory)
      · refine .inr fun part => ?_
        simp [follow, checkDirectory, nothing, bind, Except.bind]
  | cons part rest ih =>
      obtain ⟨shortHere, short⟩ := List.forall_mem_cons.1 short
      obtain ⟨here, passable⟩ := List.forall_mem_cons.1 passable
      rcases here with directory | nothing
      · refine (ih short passable).imp ?_ ?_
        · exact fun there => List.forall_mem_cons.2 ⟨directory, there⟩
        · intro missing last
          have checked := checkDirectory_eq_ok.2 directory
          rw [List.cons_append, follow, checked]
          simp only [bind, Except.bind, if_neg (Nat.not_lt.2 shortHere)]
          specialize missing last
          unfold next at missing
          split_ifs at missing ⊢ <;> exact missing
      · refine .inr fun last => ?_
        simp [follow, checkDirectory, nothing, bind, Except.bind]

end FileTree

end Project

end BlockMail
