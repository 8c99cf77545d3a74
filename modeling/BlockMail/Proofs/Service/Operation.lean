import BlockMail.Service.Basic
import BlockMail.Service.World

/-!
# Operations of the service

The eight requests an author can make, as one type with one type of answers, and
the laws by which a request is taken apart into its calls.
-/

set_option autoImplicit false

namespace BlockMail.Service

/-- What is asked of the service. A creation and a save come with the identifier
that is generated for the document they may make, and with the time at which
that document is made. -/
inductive Operation where
  | create (input : NewDocument) (fresh : DocumentId) (made : Time.Instant)
  | fetch (id : DocumentId)
  | list
  | categories
  | save (id : DocumentId) (patch : DocumentPatch) (fresh : DocumentId)
      (made : Time.Instant)
  | delete (id : DocumentId)
  | preview (id : DocumentId) (context : Option Context)
  | send (id : DocumentId) (recipient : String) (context : Option Context)

inductive Answer where
  | created (id : DocumentId)
  | fetched (document : Document)
  | listed (summaries : List Summary)
  | categories (names : List String)
  | saved (outcome : SaveOutcome)
  | deleted
  | previewed (page : String)
  | sent (delivery : Mail.Delivery)

namespace Operation

/-- The identifier that is generated for an operation. -/
def fresh? : Operation → Option DocumentId
  | .create _ fresh _ | .save _ _ fresh _ => some fresh
  | _ => none

/-- The request that an operation of a user comes down to. -/
def request (service : Service) (requester : UserId) :
    Operation → Request Answer
  | .create input fresh made =>
      return .created (← Service.create requester input fresh made)
  | .fetch id => return .fetched (← Service.fetch id requester)
  | .list => return .listed (← Service.list requester)
  | .categories => return .categories (← Service.categories requester)
  | .save id patch fresh made =>
      return .saved (← Service.save id requester patch fresh made)
  | .delete id => do
      Service.delete id requester
      return .deleted
  | .preview id context =>
      return .previewed (← service.preview id requester context)
  | .send id recipient context =>
      return .sent (← service.send id requester recipient context)

/-- The program of an operation. -/
def program (service : Service) (requester : UserId) (operation : Operation) :
    Program (Except ServiceError Answer) :=
  (operation.request service requester).run

end Operation

/-! ## Taking requests apart -/

namespace Request

variable {Result Next Cause : Type}

theorem run_bind (request : Request Result) (onward : Result → Request Next) :
    (request >>= onward).run =
      request.run.andThen fun outcome =>
        match outcome with
        | .ok result => (onward result).run
        | .error cause => .finish (.error cause) := by
  change request.run.andThen (ExceptT.bindCont onward) = _
  congr 1
  funext outcome
  cases outcome <;> rfl

@[simp] theorem run_pure (result : Result) :
    (pure result : Request Result).run = .finish (.ok result) := rfl

@[simp] theorem run_throw (cause : ServiceError) :
    (throw cause : Request Result).run = .finish (.error cause) := rfl

end Request

namespace World

variable {Result Next Cause : Type}

theorem perform_ofStore (store : Store) (transport : Mail.MemoryTransport)
    (now : Time.Instant) (call : Store.Call) :
    (ofStore store transport).perform now call =
      (ofStore (store.perform now call).1 transport,
        .replied (store.perform now call).2) := rfl

/-- A request that goes on after another one runs after it, unless the first was
refused. -/
theorem run_bind (world : World) (now : Time.Instant)
    (request : Request Result) (onward : Result → Request Next) :
    world.run now (request >>= onward).run =
      match world.run now request.run with
      | (after, .ok result) => after.run now (onward result).run
      | (after, .error cause) => (after, .error cause) := by
  rw [Request.run_bind]
  generalize request.run = program
  induction program generalizing world with
  | finish outcome => cases outcome <;> rfl
  | call query next ih =>
      simp only [Program.andThen, run]
      cases world.perform now query with
      | mk after reaction =>
          cases reaction with
          | replied reply => exact ih reply after
          | crashed description => rfl
  | deliver mail next ih =>
      simp only [Program.andThen, run]
      exact ih _ _

@[simp] theorem run_pure (world : World) (now : Time.Instant) (result : Result) :
    world.run now (pure result : Request Result).run = (world, .ok result) := rfl

@[simp] theorem run_throw (world : World) (now : Time.Instant)
    (cause : ServiceError) :
    world.run now (throw cause : Request Result).run = (world, .error cause) :=
  rfl

@[simp] theorem run_ofExcept_ok (world : World) (now : Time.Instant)
    (refusal : Cause → ServiceError) (result : Result) :
    world.run now (Request.ofExcept refusal (.ok result)).run =
      (world, .ok result) := rfl

@[simp] theorem run_ofExcept_error (world : World) (now : Time.Instant)
    (refusal : Cause → ServiceError) (cause : Cause) :
    world.run now
        (Request.ofExcept refusal (.error cause) : Request Result).run =
      (world, .error (refusal cause)) := rfl

/-- A call of a store at which nothing misbehaves. -/
theorem run_ask (store : Store) (transport : Mail.MemoryTransport)
    (now : Time.Instant) (call : Store.Call) :
    (ofStore store transport).run now (Request.ask call).run =
      (ofStore (store.perform now call).1 transport,
        match (store.perform now call).2 with
        | .ok answer => .ok answer
        | .error failure => .error (.store failure)) := by
  simp only [Request.ask, ExceptT.run, ExceptT.mk, run, perform_ofStore]
  cases (store.perform now call).2 <;> rfl

end World

end BlockMail.Service
