import BlockMail.Proofs.Service.Protocol

/-!
# Interleaved requests

Any number of requests under way at one store. A move begins a request or lets
one that was begun make its next call; between two calls of one request any
others may make theirs. A run is any list of moves.
-/

set_option autoImplicit false

namespace BlockMail.Service

/-- A request that was begun, and what is left of its program. -/
structure Running where
  requester : UserId
  operation : Operation
  rest : Program (Except ServiceError Answer)

/-- A store and the requests begun at it, in order. -/
structure Shared where
  store : Store
  requests : List Running

inductive Move where
  | start (requester : UserId) (operation : Operation)
  /-- The request at a position goes on, the clock showing `now`. `handover` is
  what the transport answers if a mail is handed over. -/
  | advance (index : Nat) (now : Time.Instant)
      (handover : Except Mail.TransportError Mail.Delivery)

/-- The identifier that is generated for a request that begins. -/
def Move.fresh? : Move → Option DocumentId
  | .start _ operation => operation.fresh?
  | .advance _ _ _ => none

namespace Shared

/-- An empty store at which no request was begun. -/
def initial (backend : Store.Backend) : Shared := ⟨.empty backend, []⟩

/-- The request at a position replaced by what is left of it. -/
def resume (shared : Shared) (index : Nat) (running : Running)
    (rest : Program (Except ServiceError Answer)) : List Running :=
  shared.requests.set index { running with rest := rest }

def step (service : Service) (shared : Shared) : Move → Shared
  | .start requester operation =>
      { shared with
        requests := shared.requests ++
          [⟨requester, operation, operation.program service requester⟩] }
  | .advance index now handover =>
      match shared.requests[index]? with
      | none => shared
      | some running =>
          match running.rest with
          | .finish _ => shared
          | .call query next =>
              let (store, reply) := shared.store.perform now query
              ⟨store, shared.resume index running (next reply)⟩
          | .deliver _ next =>
              { shared with
                requests := shared.resume index running (next handover) }

def run (service : Service) (shared : Shared) (moves : List Move) : Shared :=
  moves.foldl (step service) shared

theorem run_append (service : Service) (shared : Shared)
    (earlier later : List Move) :
    shared.run service (earlier ++ later) =
      (shared.run service earlier).run service later :=
  List.foldl_append

/-- What a run makes of an empty store. -/
def reached (service : Service) (backend : Store.Backend) (moves : List Move) :
    Shared :=
  (initial backend).run service moves

theorem reached_append (service : Service) (backend : Store.Backend)
    (earlier later : List Move) :
    reached service backend (earlier ++ later) =
      (reached service backend earlier).run service later :=
  run_append service _ earlier later

/-- The identifiers generated for the requests begun so far. -/
def issued (shared : Shared) : List DocumentId :=
  shared.requests.filterMap (·.operation.fresh?)

/-! ## What a move can do -/

/-- The four things that a move comes to. -/
inductive Transition (service : Service) (before : Shared) :
    Move → Shared → Prop where
  /-- The request is not there or has ended. -/
  | idle {index : Nat} {now : Time.Instant}
      {handover : Except Mail.TransportError Mail.Delivery} :
      Transition service before (.advance index now handover) before
  | started {requester : UserId} {operation : Operation} :
      Transition service before (.start requester operation)
        { before with
          requests := before.requests ++
            [⟨requester, operation, operation.program service requester⟩] }
  | called {index : Nat} {now : Time.Instant}
      {handover : Except Mail.TransportError Mail.Delivery} {running : Running}
      {query : Store.Call}
      {next : Except Store.Failure query.Reply →
        Program (Except ServiceError Answer)} :
      before.requests[index]? = some running →
      running.rest = .call query next →
      Transition service before (.advance index now handover)
        ⟨(before.store.perform now query).1,
          before.resume index running (next (before.store.perform now query).2)⟩
  | delivered {index : Nat} {now : Time.Instant}
      {handover : Except Mail.TransportError Mail.Delivery} {running : Running}
      {mail : Mail.OutgoingMail}
      {next : Except Mail.TransportError Mail.Delivery →
        Program (Except ServiceError Answer)} :
      before.requests[index]? = some running →
      running.rest = .deliver mail next →
      Transition service before (.advance index now handover)
        { before with
          requests := before.resume index running (next handover) }

theorem step_transition (service : Service) (shared : Shared) (move : Move) :
    Transition service shared move (shared.step service move) := by
  cases move with
  | start requester operation => exact .started
  | advance index now handover =>
      simp only [step]
      cases found : shared.requests[index]? with
      | none => exact .idle
      | some running =>
          cases left : running.rest with
          | finish result =>
              simp only [left]
              exact .idle
          | call query next =>
              simp only [left]
              exact .called found left
          | deliver mail next =>
              simp only [left]
              exact .delivered found left

/-- What holds at first and survives every move holds after every run. -/
theorem run_induction {service : Service} {shared : Shared}
    (holds : Shared → Prop) (start : holds shared) (moves : List Move)
    (preserved : ∀ before move after, Transition service before move after →
      holds before → holds after) :
    holds (shared.run service moves) := by
  induction moves generalizing shared with
  | nil => exact start
  | cons move rest ih =>
      exact ih (preserved _ _ _ (step_transition service shared move) start)

theorem getElem?_resume {shared : Shared} {index : Nat} {running : Running}
    {rest : Program (Except ServiceError Answer)}
    (here : shared.requests[index]? = some running) (position : Nat) :
    (shared.resume index running rest)[position]? =
      if position = index then some { running with rest := rest }
      else shared.requests[position]? := by
  unfold resume
  by_cases same : position = index
  · subst same
    have inside : position < shared.requests.length :=
      (List.getElem?_eq_some_iff.1 here).1
    simp [inside]
  · simp [same, List.getElem?_set_ne (Ne.symm same)]

theorem issued_resume {shared : Shared} {index : Nat} {running : Running}
    {rest : Program (Except ServiceError Answer)}
    (here : shared.requests[index]? = some running) :
    (shared.resume index running rest).filterMap (·.operation.fresh?) =
      shared.issued := by
  have same : (shared.resume index running rest).map (·.operation) =
      shared.requests.map (·.operation) := by
    apply List.ext_getElem?
    intro position
    rw [List.getElem?_map, List.getElem?_map, getElem?_resume here]
    split
    · rename_i same
      rw [same, here]
      rfl
    · rfl
  have mapped := congrArg (List.filterMap Operation.fresh?) same
  simpa [issued, List.filterMap_map, Function.comp_def] using mapped

theorem issued_of_transition {service : Service} {before after : Shared}
    {move : Move} (transition : Transition service before move after) :
    after.issued = before.issued ++ move.fresh?.toList := by
  cases transition with
  | idle => simp [Move.fresh?]
  | started =>
      rename_i requester operation
      cases given : operation.fresh? <;>
        simp [issued, Move.fresh?, given]
  | called here left => simpa [issued, Move.fresh?] using issued_resume here
  | delivered here left =>
      simpa [issued, Move.fresh?] using issued_resume here

theorem issued_run (service : Service) (shared : Shared) (moves : List Move) :
    (shared.run service moves).issued =
      shared.issued ++ moves.filterMap Move.fresh? := by
  induction moves generalizing shared with
  | nil => simp [run]
  | cons move rest ih =>
      have once := issued_of_transition (step_transition service shared move)
      have others := ih (shared.step service move)
      rw [once] at others
      simp only [run, List.foldl_cons] at others ⊢
      rw [others]
      cases given : move.fresh? <;> simp [given]

theorem position_unique {Element Key : Type} (key? : Element → Option Key)
    (elements : List Element) (distinct : (elements.filterMap key?).Nodup)
    {first second : Nat} {left right : Element} {key : Key}
    (atFirst : elements[first]? = some left)
    (atSecond : elements[second]? = some right)
    (leftKey : key? left = some key) (rightKey : key? right = some key) :
    first = second := by
  induction elements generalizing first second with
  | nil => simp at atFirst
  | cons element rest ih =>
      have laterDistinct : (rest.filterMap key?).Nodup :=
        ((List.sublist_cons_self element rest).filterMap key?).nodup distinct
      have headUnique (position : Nat) (later : Element)
          (headKey : key? element = some key)
          (found : rest[position]? = some later) : key? later ≠ some key := by
        intro laterKey
        rw [List.filterMap_cons_some headKey, List.nodup_cons] at distinct
        exact distinct.1 (List.mem_filterMap.2
          ⟨later, List.mem_of_getElem? found, laterKey⟩)
      cases first with
      | zero =>
          cases second with
          | zero => rfl
          | succ second =>
              simp only [List.getElem?_cons_zero, Option.some.injEq] at atFirst
              subst atFirst
              exact absurd rightKey (headUnique second right leftKey atSecond)
      | succ first =>
          cases second with
          | zero =>
              simp only [List.getElem?_cons_zero, Option.some.injEq] at atSecond
              subst atSecond
              exact absurd leftKey (headUnique first left rightKey atFirst)
          | succ second =>
              rw [ih laterDistinct atFirst atSecond]

/-- What holds at first and survives every move that brings no identifier for
the second time holds after a run in which none comes twice. -/
theorem run_induction_distinct {service : Service} {shared : Shared}
    (holds : Shared → Prop) (start : holds shared) (moves : List Move)
    (distinct : (shared.run service moves).issued.Nodup)
    (preserved : ∀ before move after, Transition service before move after →
      after.issued.Nodup → holds before → holds after) :
    holds (shared.run service moves) := by
  induction moves generalizing shared with
  | nil => exact start
  | cons move rest ih =>
      have soFar : (shared.step service move).issued.Nodup := by
        have whole := distinct
        rw [show shared.run service (move :: rest) =
          (shared.step service move).run service rest from rfl, issued_run,
          List.nodup_append] at whole
        exact whole.1
      exact ih (preserved _ _ _ (step_transition service shared move) soFar start)
        distinct

/-- No two requests come with the same generated identifier. -/
theorem fresh_unique {shared : Shared} (distinct : shared.issued.Nodup)
    {first second : Nat} {left right : Running} {id : DocumentId}
    (atFirst : shared.requests[first]? = some left)
    (atSecond : shared.requests[second]? = some right)
    (leftFresh : left.operation.fresh? = some id)
    (rightFresh : right.operation.fresh? = some id) : first = second :=
  position_unique (fun running : Running => running.operation.fresh?)
    shared.requests distinct atFirst atSecond leftFresh rightFresh

/-- Where the request at a position comes from: it began with the move, it was
there and made no call, or the move was its own. -/
inductive Origin (service : Service) (before after : Shared) (position : Nat) :
    Move → Running → Prop where
  | started {requester : UserId} {operation : Operation} :
      position = before.requests.length →
      after.store = before.store →
      Origin service before after position (.start requester operation)
        ⟨requester, operation, operation.program service requester⟩
  | waiting {move : Move} {running : Running} :
      before.requests[position]? = some running →
      Origin service before after position move running
  | called {now : Time.Instant}
      {handover : Except Mail.TransportError Mail.Delivery} {running : Running}
      {query : Store.Call}
      {next : Except Store.Failure query.Reply →
        Program (Except ServiceError Answer)} :
      before.requests[position]? = some running →
      running.rest = .call query next →
      after.store = (before.store.perform now query).1 →
      Origin service before after position (.advance position now handover)
        { running with rest := next (before.store.perform now query).2 }
  | delivered {now : Time.Instant}
      {handover : Except Mail.TransportError Mail.Delivery} {running : Running}
      {mail : Mail.OutgoingMail}
      {next : Except Mail.TransportError Mail.Delivery →
        Program (Except ServiceError Answer)} :
      before.requests[position]? = some running →
      running.rest = .deliver mail next →
      after.store = before.store →
      Origin service before after position (.advance position now handover)
        { running with rest := next handover }

theorem Transition.origin {service : Service} {before after : Shared}
    {move : Move} (transition : Transition service before move after)
    {position : Nat} {running : Running}
    (there : after.requests[position]? = some running) :
    Origin service before after position move running := by
  cases transition with
  | idle => exact .waiting there
  | started =>
      rename_i requester operation
      by_cases inside : position < before.requests.length
      · rw [List.getElem?_append_left inside] at there
        exact .waiting there
      · rw [List.getElem?_append_right (Nat.le_of_not_lt inside)] at there
        have last : position - before.requests.length = 0 := by
          cases remaining : position - before.requests.length with
          | zero => rfl
          | succ more => simp [remaining] at there
        simp only [last, List.getElem?_cons_zero, Option.some.injEq] at there
        subst there
        exact .started (by omega) rfl
  | called here left =>
      rw [getElem?_resume here] at there
      split at there
      · rename_i same
        subst same
        cases there
        exact .called here left rfl
      · exact .waiting there
  | delivered here left =>
      rw [getElem?_resume here] at there
      split at there
      · rename_i same
        subst same
        cases there
        exact .delivered here left rfl
      · exact .waiting there

/-- What becomes of a request with a move: it goes on with its own call or its own
delivery, or it stays as it is. -/
inductive Progress (before : Shared) (running : Running) :
    Program (Except ServiceError Answer) → Prop where
  | waits : Progress before running running.rest
  | calls {now : Time.Instant} {query : Store.Call}
      {next : Except Store.Failure query.Reply →
        Program (Except ServiceError Answer)} :
      running.rest = .call query next →
      Progress before running (next (before.store.perform now query).2)
  | delivers {mail : Mail.OutgoingMail}
      {handover : Except Mail.TransportError Mail.Delivery}
      {next : Except Mail.TransportError Mail.Delivery →
        Program (Except ServiceError Answer)} :
      running.rest = .deliver mail next →
      Progress before running (next handover)

theorem Transition.progress {service : Service} {before after : Shared}
    {move : Move} (transition : Transition service before move after)
    {position : Nat} {running : Running}
    (here : before.requests[position]? = some running) :
    ∃ rest, after.requests[position]? = some { running with rest := rest } ∧
      Progress before running rest := by
  cases transition with
  | idle => exact ⟨_, here, .waits⟩
  | started =>
      refine ⟨_, ?_, .waits⟩
      rw [List.getElem?_append_left (List.getElem?_eq_some_iff.1 here).1]
      exact here
  | called moved left =>
      simp only [getElem?_resume moved]
      split
      · rename_i same
        subst same
        cases here.symm.trans moved
        exact ⟨_, rfl, .calls left⟩
      · exact ⟨_, here, .waits⟩
  | delivered moved left =>
      simp only [getElem?_resume moved]
      split
      · rename_i same
        subst same
        cases here.symm.trans moved
        exact ⟨_, rfl, .delivers left⟩
      · exact ⟨_, here, .waits⟩

/-- The entry under an identifier after a move: what it was, or what the call of
one request makes of it. -/
theorem Transition.entryAt? {service : Service} {before after : Shared}
    {move : Move} (transition : Transition service before move after)
    (id : DocumentId) :
    after.store.entryAt? id = before.store.entryAt? id ∨
      ∃ index now handover running query next,
        move = .advance index now handover ∧
        before.requests[index]? = some running ∧
        running.rest = .call query next ∧
        after.requests[index]? =
          some { running with rest := next (before.store.perform now query).2 } ∧
        after.store.entryAt? id =
          query.effect before.store.backend now id (before.store.entryAt? id) := by
  cases transition with
  | idle | started | delivered => exact .inl rfl
  | called here left =>
      refine .inr ⟨_, _, _, _, _, _, rfl, here, left, ?_, ?_⟩
      · simp only [getElem?_resume here, ↓reduceIte]
      · exact Store.entryAt?_perform _ _ _ id

theorem Transition.backend {service : Service} {before after : Shared} {move : Move}
    (transition : Transition service before move after) :
    after.store.backend = before.store.backend := by
  cases transition with
  | idle | started | delivered => rfl
  | called => exact Store.backend_perform _ _ _

@[simp] theorem backend_reached (service : Service) (backend : Store.Backend)
    (moves : List Move) : (reached service backend moves).store.backend = backend := by
  refine run_induction (fun shared => shared.store.backend = backend)
    (Store.backend_empty backend) moves ?_
  intro before move after transition holds
  exact transition.backend.trans holds

/-! ## One request at a time -/

/-- A request that runs in one go makes the calls of one run of moves. -/
theorem run_alone (service : Service) (now : Time.Instant) (index : Nat)
    (requester : UserId) (operation : Operation)
    (program : Program (Except ServiceError Answer)) (shared : Shared)
    (transport : Mail.MemoryTransport)
    (here : shared.requests[index]? = some ⟨requester, operation, program⟩) :
    let outcome := (World.ofStore shared.store transport).run now program
    ∃ moves, shared.run service moves =
      ⟨outcome.1.store,
        shared.requests.set index ⟨requester, operation, .finish outcome.2⟩⟩ := by
  induction program generalizing shared transport with
  | finish result =>
      refine ⟨[], ?_⟩
      obtain ⟨inside, found⟩ := List.getElem?_eq_some_iff.1 here
      simp only [run, List.foldl_nil, World.run, World.ofStore, ← found,
        List.set_getElem_self]
  | call query next ih =>
      let after : Shared :=
        ⟨(shared.store.perform now query).1,
          shared.resume index ⟨requester, operation, .call query next⟩
            (next (shared.store.perform now query).2)⟩
      have there : after.requests[index]? = some ⟨requester, operation, _⟩ :=
        (getElem?_resume here index).trans (if_pos rfl)
      obtain ⟨moves, ran⟩ := ih _ after transport there
      refine ⟨.advance index now (.error (.failed "")) :: moves, ?_⟩
      have stepped : shared.step service
          (.advance index now (.error (.failed ""))) = after := by
        simp only [step, here]
        rfl
      simp only [run, List.foldl_cons, stepped] at ran ⊢
      rw [ran]
      simp only [after, resume, List.set_set, World.run, World.perform_ofStore]
  | deliver mail next ih =>
      let after : Shared :=
        ⟨shared.store,
          shared.resume index ⟨requester, operation, .deliver mail next⟩
            (next (transport.send mail).2)⟩
      have there : after.requests[index]? = some ⟨requester, operation, _⟩ :=
        (getElem?_resume here index).trans (if_pos rfl)
      obtain ⟨moves, ran⟩ := ih _ after (transport.send mail).1 there
      refine ⟨.advance index now (transport.send mail).2 :: moves, ?_⟩
      have stepped : shared.step service
          (.advance index now (transport.send mail).2) = after := by
        simp only [step, here]
        rfl
      simp only [run, List.foldl_cons, stepped] at ran ⊢
      rw [ran]
      simp only [after, resume, List.set_set, World.run, World.ofStore]

end Shared

end BlockMail.Service
