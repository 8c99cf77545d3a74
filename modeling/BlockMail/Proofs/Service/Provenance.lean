import BlockMail.Proofs.Service.Aftermath
import BlockMail.Proofs.Service.Deletion
import BlockMail.Proofs.Service.Delivery
import BlockMail.Proofs.Service.Overlap
import BlockMail.Proofs.Store.Lineage

/-!
# Where forks come from

A fork is made by a save of its owner, of a template that is public and somebody else's.
Both hold of the moment at which the save reads the template; where requests come one
after the other, that is the moment of the save as a whole.
-/

set_option autoImplicit false

namespace BlockMail.Service

open Store

/-! ## One request after the other -/

/-- A request of a user, and the time at which it is served. -/
structure Turn where
  requester : UserId
  operation : Operation
  now : Time.Instant

def Turn.fresh? (turn : Turn) : Option DocumentId := turn.operation.fresh?

/-- The world after a request. -/
def Turn.serve (service : Service) (world : World) (turn : Turn) : World :=
  (world.run turn.now (turn.operation.program service turn.requester)).1

/-- What a request makes is its user's, under the identifier generated for it. If it is a
fork, the request is a save of a public template of somebody else. -/
structure Turn.Makes (turn : Turn) (before : Store) (id : DocumentId) (entry : Entry) :
    Prop where
  generated : turn.fresh? = some id
  owned : entry.owner = turn.requester
  forked : ∀ origin, entry.forkedFrom = some origin → ∃ patch made original,
    turn.operation = .save origin patch id made ∧
      before.entryAt? origin = some original ∧
      original.visibilityName = Visibility.everyone.name ∧ original.owner ≠ turn.requester

/-- What becomes of the entries with a request. -/
structure Turn.Effect (turn : Turn) (before after : Store) : Prop where
  kept : ∀ id old new, before.entryAt? id = some old → after.entryAt? id = some new →
    old.SameOrigin new
  made : ∀ id new, before.entryAt? id = none → after.entryAt? id = some new →
    turn.Makes before id new

section Effects

variable {turn : Turn} {before after : Store}

theorem Turn.effect_same (turn : Turn) (store : Store) : turn.Effect store store := by
  constructor
  · intro id old new found left
    cases found.symm.trans left
    exact ⟨rfl, rfl⟩
  · intro id new absent left
    cases absent.symm.trans left

/-- The effect of a request that leaves all entries but one as they are. -/
theorem Turn.effect_of_one {id : DocumentId} {old new : Option Entry}
    (was : before.entryAt? id = old) (became : after.entryAt? id = new)
    (others : ∀ other, other ≠ id → after.entryAt? other = before.entryAt? other)
    (kept : ∀ first second, old = some first → new = some second → first.SameOrigin second)
    (made : ∀ entry, old = none → new = some entry → turn.Makes before id entry) :
    turn.Effect before after := by
  constructor
  · intro other first second found left
    by_cases same : other = id
    · subst same
      exact kept first second (was.symm.trans found) (became.symm.trans left)
    · rw [others other same] at left
      exact (turn.effect_same before).kept other first second found left
  · intro other entry absent left
    by_cases same : other = id
    · subst same
      exact made entry (was.symm.trans absent) (became.symm.trans left)
    · rw [others other same] at left
      cases absent.symm.trans left

theorem Turn.effect_of_leaves {world : World} {Result : Type} {request : Request Result}
    {accepted : Result → World → Prop} {now : Time.Instant}
    (leaves : world.Leaves now request accepted)
    (effect : ∀ result after, accepted result after →
      turn.Effect world.store after.store) :
    turn.Effect world.store (world.run now request.run).1.store := by
  cases leaves with
  | refused ran =>
      rw [ran]
      exact turn.effect_same world.store
  | accepted ran here =>
      rw [ran]
      exact effect _ _ here

theorem SaveEnds.effect {id fresh : DocumentId} {patch : DocumentPatch} {made : Time.Instant}
    {result : Except ServiceError SaveOutcome} (saves : turn.operation = .save id patch fresh made)
    (absent : before.entryAt? fresh = none)
    (ends : SaveEnds before id turn.requester patch fresh made turn.now after result) :
    turn.Effect before after := by
  cases ends with
  | missing | invalid | hidden | unreadable => exact turn.effect_same before
  | inPlace found _ _ there revised others =>
      refine Turn.effect_of_one found there others ?_ ?_
      · rintro _ _ ⟨⟩ ⟨⟩
        exact ⟨revised.owner, revised.forkedFrom⟩
      · rintro _ ⟨⟩
  | forked found read _ foreign shown there forked others =>
      refine Turn.effect_of_one absent there others ?_ ?_
      · rintro _ _ ⟨⟩
      · rintro _ _ ⟨⟩
        refine ⟨by rw [Turn.fresh?, saves]; rfl, forked.owner, ?_⟩
        intro origin named
        cases forked.forkedFrom.symm.trans named
        have visible := (Entry.readsAs read).visibility
        rw [shown] at visible
        exact ⟨patch, made, _, saves, found, visible.symm, foreign⟩

end Effects

/-- Wrapping the result of a request makes no difference to the world. -/
theorem World.run_wrapped {Result : Type} (world : World) (now : Time.Instant)
    (request : Request Result) (wrap : Result → Answer) :
    (world.run now (do return wrap (← request) : Request Answer).run).1 =
      (world.run now request.run).1 := by
  rw [run_bind]
  rcases world.run now request.run with ⟨after, result⟩
  cases result <;> rfl

/-- Nothing misbehaves. -/
def World.Works (world : World) : Prop := World.ofStore world.store world.transport = world

theorem World.Works.serve {world : World} (works : world.Works) (service : Service)
    (turn : Turn) : (turn.serve service world).Works := by
  have ran := run_eq_through (turn.operation.program service turn.requester) world.store
    world.transport turn.now
  rw [works] at ran
  unfold Turn.serve
  rw [ran]
  rfl

/-- The effect of a request whose generated identifier is new. -/
theorem effect_serve (service : Service) {world : World} (works : world.Works) {turn : Turn}
    (new : ∀ fresh, turn.fresh? = some fresh → world.store.entryAt? fresh = none) :
    turn.Effect world.store (turn.serve service world).store := by
  obtain ⟨requester, operation, now⟩ := turn
  have reads {Result : Type} {request : Request Result}
      (leaves : world.Leaves now request fun _ after => after = world) :
      Turn.Effect ⟨requester, operation, now⟩ world.store
        (world.run now request.run).1.store := by
    apply Turn.effect_of_leaves leaves
    rintro _ after rfl
    exact Turn.effect_same _ after.store
  unfold Turn.serve Operation.program
  cases operation with
  | create input fresh made =>
      simp only [Operation.request, World.run_wrapped]
      apply Turn.effect_of_leaves (leaves_create requester input fresh made)
      rintro _ after ⟨_, document, adds, origin⟩
      refine Turn.effect_of_one adds.added.was adds.added.became adds.added.others ?_ ?_
      · rintro _ _ ⟨⟩
      · rintro _ _ ⟨⟩
        refine ⟨rfl, (Entry.owner_ofDocument _ document).trans adds.owned, ?_⟩
        intro parent named
        rw [Entry.forkedFrom_ofDocument, origin] at named
        cases named
  | save id patch fresh made =>
      simp only [Operation.request, World.run_wrapped]
      have absent := new fresh rfl
      cases damage : world.store.damage? id with
      | some failure =>
          have ran := run_save_of_damaged damage world.transport now requester patch fresh made
          rw [works] at ran
          rw [ran]
          exact Turn.effect_same _ world.store
      | none =>
          obtain ⟨after, result, ran, ends⟩ :=
            run_save_ends damage world.transport now requester patch made absent
          rw [works] at ran
          rw [ran]
          exact SaveEnds.effect rfl absent ends
  | delete id =>
      simp only [Operation.request, World.run_wrapped]
      apply Turn.effect_of_leaves (leaves_delete id requester)
      rintro _ after ⟨entry, _, removed⟩
      refine Turn.effect_of_one removed.was removed.became removed.others ?_ ?_
      · rintro _ _ _ ⟨⟩
      · rintro _ ⟨⟩
  | fetch id =>
      simp only [Operation.request, World.run_wrapped]
      exact reads (leaves_fetch id requester)
  | list =>
      simp only [Operation.request, World.run_wrapped]
      exact reads (leaves_list requester)
  | categories =>
      simp only [Operation.request, World.run_wrapped]
      exact reads (leaves_categories requester)
  | preview id context =>
      simp only [Operation.request, World.run_wrapped]
      exact reads (leaves_preview service id requester context)
  | send id recipient context =>
      simp only [Operation.request, World.run_wrapped]
      apply Turn.effect_of_leaves (leaves_send service id requester recipient context)
      rintro _ after ⟨same, _⟩
      rw [same]
      exact Turn.effect_same _ world.store

section Turns

variable {service : Service} {backend : Backend} {transport : Mail.MemoryTransport}
  {turns : List Turn}

/-- The world after some requests, from an empty store on. -/
def served (service : Service) (backend : Backend) (transport : Mail.MemoryTransport)
    (turns : List Turn) : World :=
  turns.foldl (Turn.serve service) (.ofStore (.empty backend) transport)

theorem served_append (earlier : List Turn) (turn : Turn) :
    served service backend transport (earlier ++ [turn]) =
      turn.serve service (served service backend transport earlier) :=
  List.foldl_append

theorem works_served (turns : List Turn) : (served service backend transport turns).Works := by
  induction turns using List.reverseRecOn with
  | nil => rfl
  | append_singleton earlier turn ih =>
      rw [served_append]
      exact ih.serve service turn

theorem served_take {index : Nat} {turn : Turn} (here : turns[index]? = some turn) :
    served service backend transport (turns.take (index + 1)) =
      turn.serve service (served service backend transport (turns.take index)) := by
  rw [List.take_add_one, here]
  exact served_append _ _

/-- Identifiers in the store were generated for earlier requests. -/
def Generated (service : Service) (backend : Backend) (transport : Mail.MemoryTransport)
    (turns : List Turn) (count : Nat) : Prop :=
  ∀ id, (served service backend transport (turns.take count)).store.entryAt? id ≠ none →
    ∃ index < count, ∃ turn, turns[index]? = some turn ∧ turn.fresh? = some id

variable (distinct : (turns.filterMap Turn.fresh?).Nodup)

include distinct

theorem effect_of_generated {index : Nat} {turn : Turn} (here : turns[index]? = some turn)
    (generated : Generated service backend transport turns index) :
    turn.Effect (served service backend transport (turns.take index)).store
      (served service backend transport (turns.take (index + 1))).store := by
  rw [served_take here]
  apply effect_serve service (works_served _)
  intro fresh own
  by_contra present
  obtain ⟨other, earlier, maker, there, made⟩ := generated fresh present
  have same := Shared.position_unique Turn.fresh? turns distinct there here made own
  omega

theorem generated_all (count : Nat) (within : count ≤ turns.length) :
    Generated service backend transport turns count := by
  induction count with
  | zero =>
      intro id present
      exact absurd (entryAt?_empty backend id) present
  | succ count ih =>
      have generated := ih (Nat.le_of_succ_le within)
      intro id present
      have here : turns[count]? = some turns[count] := List.getElem?_eq_getElem within
      cases before : (served service backend transport (turns.take count)).store.entryAt? id with
      | some old =>
          obtain ⟨index, earlier, maker, there, made⟩ := generated id (by simp [before])
          exact ⟨index, Nat.lt_succ_of_lt earlier, maker, there, made⟩
      | none =>
          obtain ⟨entry, appears⟩ := Option.ne_none_iff_exists'.1 present
          have makes := (effect_of_generated distinct here generated).made id entry before appears
          exact ⟨count, Nat.lt_succ_self count, _, here, makes.generated⟩

theorem effect_at {index : Nat} {turn : Turn} (here : turns[index]? = some turn) :
    turn.Effect (served service backend transport (turns.take index)).store
      (served service backend transport (turns.take (index + 1))).store := by
  have within := (List.getElem?_eq_some_iff.1 here).1
  exact effect_of_generated distinct here (generated_all distinct index (Nat.le_of_lt within))

/-- Requests one after the other use every identifier once. -/
theorem history_served :
    History (fun count => (served service backend transport (turns.take count)).store)
      turns.length := by
  have turnAt {index : Nat} (within : index < turns.length) :
      turns[index]? = some turns[index] := List.getElem?_eq_getElem within
  constructor
  case start =>
    intro id
    exact entryAt?_empty backend id
  case kept =>
    intro index within id old new found left
    exact (effect_at distinct (turnAt within)).kept id old new found left
  case gone =>
    intro early late id order within present absent
    obtain ⟨index, earlier, maker, there, made⟩ :=
      generated_all distinct early (Nat.le_trans order within) id present
    -- The one request that could make the entry has been served.
    have stays (count : Nat) (after : late ≤ count) (short : count ≤ turns.length) :
        (served service backend transport (turns.take count)).store.entryAt? id = none := by
      induction count, after using Nat.le_induction with
      | base => exact absent
      | succ count after ih =>
          have before := ih (Nat.le_of_succ_le short)
          by_contra appears
          obtain ⟨entry, appears⟩ := Option.ne_none_iff_exists'.1 appears
          have makes := (effect_at distinct (turnAt short)).made id entry before appears
          have same := Shared.position_unique Turn.fresh? turns distinct there (turnAt short)
            made makes.generated
          omega
    exact stays turns.length within (Nat.le_refl _)
  case forked =>
    intro index within id copy parent absent appears origin
    have makes := (effect_at distinct (turnAt within)).made id copy absent appears
    obtain ⟨_, _, original, _, found, _, _⟩ := makes.forked parent origin
    exact ⟨index, Nat.le_refl _, by simp [found]⟩

end Turns

/-- Every fork was made by one request: a save by its owner, of a template that was in the
store at that moment, was public, and was somebody else's. No fork is a fork of a fork of
itself, by any number of steps. -/
structure Provenance (service : Service) (backend : Backend) (transport : Mail.MemoryTransport)
    (turns : List Turn) : Prop where
  origin : ∀ id copy parent,
    (served service backend transport turns).store.entryAt? id = some copy →
    copy.forkedFrom = some parent →
    ∃ index first turn patch made original,
      Arrival (fun count => (served service backend transport (turns.take count)).store)
        turns.length index id first ∧ first.SameOrigin copy ∧
      turns[index]? = some turn ∧ turn.operation = .save parent patch id made ∧
      turn.requester = copy.owner ∧
      (served service backend transport (turns.take index)).store.entryAt? parent =
        some original ∧
      original.visibilityName = Visibility.everyone.name ∧ original.owner ≠ turn.requester
  acyclic : ∀ path, (served service backend transport turns).store.Lineage path → path.Nodup

theorem provenance_served (service : Service) (backend : Backend)
    (transport : Mail.MemoryTransport) {turns : List Turn}
    (distinct : (turns.filterMap Turn.fresh?).Nodup) :
    Provenance service backend transport turns := by
  have history : History
      (fun count => (served service backend transport (turns.take count)).store)
      turns.length := history_served distinct
  constructor
  case origin =>
    intro id copy parent present forked
    rw [← turns.take_length] at present
    obtain ⟨index, first, arrival, same⟩ := history.arrival present
    have within := arrival.within
    have here : turns[index]? = some turns[index] := List.getElem?_eq_getElem arrival.within
    have makes := (effect_at distinct here).made id first
      (arrival.absent index (Nat.le_refl index)) arrival.appears
    obtain ⟨patch, made, original, saves, found, shown, foreign⟩ :=
      makes.forked parent (same.2.symm.trans forked)
    exact ⟨index, first, _, patch, made, original, arrival, same, here, saves,
      makes.owned.symm.trans same.1.symm, found, shown, foreign⟩
  case acyclic =>
    intro path lineage
    rw [← turns.take_length] at lineage
    exact history.nodup_lineage lineage

/-! ## Overlapping requests -/

section Moves

open Shared

variable {service : Service} {backend : Backend} {moves : List Move}

theorem reached_take {index : Nat} {move : Move} (here : moves[index]? = some move) :
    reached service backend (moves.take (index + 1)) =
      (reached service backend (moves.take index)).step service move := by
  rw [List.take_add_one, here]
  exact reached_append service backend _ _

/-- The look-up by which a save found what it made a fork of. -/
theorem Shared.Recalls.present {past : List Move} {position : Nat} {running : Running}
    {id : DocumentId} {record : DocumentRecord}
    (recalls : (idle (.empty backend)).Recalls service past position running id record) :
    ∃ seen ≤ past.length,
      (reached service backend (past.take seen)).store.get? id = .ok (some record) := by
  obtain ⟨earlier, between, now, handover, next, rfl, _, given⟩ := recalls
  refine ⟨earlier.length, by simp, ?_⟩
  rw [List.take_left' rfl]
  exact given

theorem history_reached (distinct : (moves.filterMap Move.fresh?).Nodup) :
    History (fun count => (reached service backend (moves.take count)).store)
      moves.length := by
  have moveAt {index : Nat} (within : index < moves.length) :
      moves[index]? = some moves[index] := List.getElem?_eq_getElem within
  constructor
  case start =>
    intro id
    exact entryAt?_empty backend id
  case kept =>
    intro index within id old new found left
    rw [reached_take (moveAt within)] at left
    exact (kept_identity (step_transition service _ _) found left).2
  case gone =>
    intro early late id order within present absent
    obtain ⟨between, parted⟩ : moves.take early <+: moves.take late :=
      List.take_prefix_take_left order
    have whole : moves = moves.take early ++ between ++ moves.drop late := by
      rw [parted, List.take_append_drop]
    obtain ⟨old, found⟩ := Option.ne_none_iff_exists'.1 present
    rw [← parted] at absent
    rw [List.take_length, whole]
    exact gone_reached (whole ▸ distinct) found absent
  case forked =>
    intro index within id copy parent absent appears origin
    have whole : moves.take (index + 1) = moves.take index ++ [moves[index]] := by
      rw [List.take_add_one, moveAt within]
      rfl
    rw [whole] at appears
    obtain ⟨_, _, _, _, _, _, record, _, _, _, fork⟩ := forkOf_appeared absent appears origin
    obtain ⟨seen, before, given⟩ := fork.recalls.present
    rw [List.length_take] at before
    rw [List.take_take, Nat.min_eq_left (by omega)] at given
    obtain ⟨entry, found, _⟩ := get?_eq_some.1 given
    exact ⟨seen, by omega, by simp [found]⟩

/-- Every fork was made by a save of its owner, of a template that the save had looked up,
and that was public and somebody else's when it did. It may be gone when the fork is made. -/
structure SharedProvenance (service : Service) (backend : Backend) (moves : List Move) :
    Prop where
  origin : ∀ id copy parent,
    (reached service backend moves).store.entryAt? id = some copy →
    copy.forkedFrom = some parent →
    ∃ index first position now handover running patch made record,
      Arrival (fun count => (reached service backend (moves.take count)).store)
        moves.length index id first ∧ first.SameOrigin copy ∧
      moves[index]? = some (.advance position now handover) ∧
      (reached service backend (moves.take index)).requests[position]? = some running ∧
      running.operation = .save parent patch id made ∧ running.requester = copy.owner ∧
      ForkOf service (.empty backend) (moves.take index) position running parent patch id made
        first record
  acyclic : ∀ path, (reached service backend moves).store.Lineage path → path.Nodup

theorem provenance_reached (service : Service) (backend : Backend) {moves : List Move}
    (distinct : (moves.filterMap Move.fresh?).Nodup) :
    SharedProvenance service backend moves := by
  have history : History (fun count => (reached service backend (moves.take count)).store)
      moves.length := history_reached distinct
  constructor
  case origin =>
    intro id copy parent present forked
    rw [← moves.take_length] at present
    obtain ⟨index, first, arrival, same⟩ := history.arrival present
    have within := arrival.within
    have here : moves[index]? = some moves[index] := List.getElem?_eq_getElem within
    have appears := arrival.appears
    rw [List.take_add_one, here] at appears
    obtain ⟨position, now, handover, running, patch, made, record, moved, runs, saves, fork⟩ :=
      forkOf_appeared (arrival.absent index (Nat.le_refl index)) appears
        (same.2.symm.trans forked)
    exact ⟨index, first, position, now, handover, running, patch, made, record, arrival, same,
      here.trans (congrArg some moved), runs, saves, fork.forked.owner.symm.trans same.1.symm,
      fork⟩
  case acyclic =>
    intro path lineage
    rw [← moves.take_length] at lineage
    exact history.nodup_lineage lineage

end Moves

/-- Forks come from saves of public templates, and not from themselves, whether requests are
served one after the other or overlap, if every generated identifier is used once. -/
theorem provenance (service : Service) (backend : Backend) :
    (∀ transport turns, (turns.filterMap Turn.fresh?).Nodup →
      Provenance service backend transport turns) ∧
    ∀ moves, (moves.filterMap Move.fresh?).Nodup → SharedProvenance service backend moves :=
  ⟨fun transport _ distinct => provenance_served service backend transport distinct,
    fun _ distinct => provenance_reached service backend distinct⟩

/-- A fork of a fork, whose first original is deleted. -/
def forkOfFork (now : Time.Instant) : List Turn :=
  let publish : DocumentPatch := ⟨none, none, none, none, none, some .everyone⟩
  let rename : DocumentPatch := ⟨some "Mine", none, none, none, none, none⟩
  let input : NewDocument := ⟨some "Welcome", none, none, none, none, some .everyone⟩
  [⟨⟨"ada"⟩, .create input ⟨"d1"⟩ now, now⟩, ⟨⟨"bob"⟩, .save ⟨"d1"⟩ rename ⟨"d2"⟩ now, now⟩,
    ⟨⟨"bob"⟩, .save ⟨"d2"⟩ publish ⟨"d3"⟩ now, now⟩,
    ⟨⟨"carol"⟩, .save ⟨"d2"⟩ rename ⟨"d4"⟩ now, now⟩, ⟨⟨"ada"⟩, .delete ⟨"d1"⟩, now⟩]

/-- A template is deleted between the two calls of the save that forks it. -/
def forkOfRemoved (now : Time.Instant) : List Move :=
  let input : NewDocument := ⟨some "Welcome", none, none, none, none, some .everyone⟩
  let rename : DocumentPatch := ⟨some "Mine", none, none, none, none, none⟩
  let next (index : Nat) : Move := .advance index now (.error (.failed ""))
  [.start ⟨"ada"⟩ (.create input ⟨"d1"⟩ now), next 0,
    .start ⟨"bob"⟩ (.save ⟨"d1"⟩ rename ⟨"d2"⟩ now), next 1,
    .start ⟨"ada"⟩ (.delete ⟨"d1"⟩), next 2, next 1]

theorem provenance_of_forks :
    let noon : Time.Instant := ⟨⟨2024, 5, 1, by decide⟩, 720, 0, 0, by decide⟩
    let service : Service := ⟨"", .empty⟩
    let forked := (served service .memory .empty (forkOfFork noon)).store
    let crossed := (Shared.reached service .memory (forkOfRemoved noon)).store
    ((forkOfFork noon).filterMap Turn.fresh?).Nodup ∧
      ((forkOfRemoved noon).filterMap Move.fresh?).Nodup ∧
      forked.Lineage [⟨"d4"⟩, ⟨"d2"⟩, ⟨"d1"⟩] ∧ (forked.entryAt? ⟨"d1"⟩).isNone ∧
      crossed.Lineage [⟨"d2"⟩, ⟨"d1"⟩] ∧ (crossed.entryAt? ⟨"d1"⟩).isNone ∧
      Provenance service .memory .empty (forkOfFork noon) ∧
      SharedProvenance service .memory (forkOfRemoved noon) := by
  intro noon service forked crossed
  have once : ((forkOfFork noon).filterMap Turn.fresh?).Nodup := by decide
  have onceShared : ((forkOfRemoved noon).filterMap Move.fresh?).Nodup := by decide
  exact ⟨once, onceShared, by decide, by decide, by decide, by decide,
    (provenance service .memory).1 _ _ once, (provenance service .memory).2 _ onceShared⟩

end BlockMail.Service
