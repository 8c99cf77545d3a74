/-!
# Steps in place

Steps that read and write a state, one after the other. A step that fails does not take
back what was written before it.
-/

set_option autoImplicit false

namespace BlockMail

/-- Steps that read and write a state. A failure keeps what was written before it. -/
abbrev InPlace (State Cause Result : Type) := ExceptT Cause (StateM State) Result

namespace InPlace

variable {State Cause Result Next : Type}

/-- The outcome of some steps, and the state they leave. -/
def on (steps : InPlace State Cause Result) (state : State) : Except Cause Result × State :=
  steps.run.run state

/-- Finds something out about the state. -/
def consult (look : State → Except Cause Result) : InPlace State Cause Result := do
  match look (← get) with
  | .ok result => return result
  | .error cause => throw cause

@[simp] theorem on_pure (result : Result) (state : State) :
    (pure result : InPlace State Cause Result).on state = (.ok result, state) := rfl

@[simp] theorem on_get (state : State) :
    (get : InPlace State Cause State).on state = (.ok state, state) := rfl

@[simp] theorem on_modify (change : State → State) (state : State) :
    (modify change : InPlace State Cause Unit).on state = (.ok (), change state) := rfl

theorem on_bind (steps : InPlace State Cause Result)
    (onward : Result → InPlace State Cause Next) (state : State) :
    (steps >>= onward).on state =
      match steps.on state with
      | (.ok result, after) => (onward result).on after
      | (.error cause, after) => (.error cause, after) := by
  change (ExceptT.bindCont onward (steps.on state).1).run (steps.on state).2 = _
  rcases steps.on state with ⟨outcome, after⟩
  cases outcome <;> rfl

theorem on_bind_eq_ok {steps : InPlace State Cause Result}
    {onward : Result → InPlace State Cause Next} {state after : State} {outcome : Next} :
    (steps >>= onward).on state = (.ok outcome, after) ↔
      ∃ result middle, steps.on state = (.ok result, middle) ∧
        (onward result).on middle = (.ok outcome, after) := by
  rw [on_bind]
  obtain ⟨first, middle⟩ := steps.on state
  cases first with
  | error cause => simp
  | ok result =>
      constructor
      · exact fun went => ⟨result, middle, rfl, went⟩
      · rintro ⟨_, _, ⟨⟩, went⟩
        exact went

@[simp] theorem on_consult (look : State → Except Cause Result) (state : State) :
    (consult look).on state = (look state, state) := by
  unfold consult
  rw [on_bind, on_get]
  cases found : look state <;> simp only [found] <;> rfl

/-- A change that is made all at once, or not at all. -/
def atOnce (state : State) : Except Cause (State × Result) → Except Cause Result × State
  | .ok (after, result) => (.ok result, after)
  | .error cause => (.error cause, state)

theorem state_of_refused {state : State} {change : Except Cause (State × Result)}
    {cause : Cause} (refused : (atOnce state change).1 = .error cause) :
    (atOnce state change).2 = state := by
  cases change with
  | error other => rfl
  | ok made => cases refused

end InPlace

end BlockMail
