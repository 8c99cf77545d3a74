import BlockMail.Mail.MemoryTransport
import BlockMail.Service.Program

/-!
# Running requests

The store and the transport that requests act on. Calls of the store can be made
to misbehave, to see what a request makes of it.
-/

set_option autoImplicit false

namespace BlockMail

namespace Service

inductive CallKind where
  | get
  | list
  | insert
  | update
  | delete
deriving DecidableEq

def kindOf : Store.Call → CallKind
  | .get _ => .get
  | .list _ => .list
  | .insert _ => .insert
  | .updateOwned _ _ _ => .update
  | .deleteOwned _ _ => .delete

/-- How a call misbehaves: it finds and changes nothing, it fails, or it breaks
the request off. -/
inductive Fault where
  | nothing
  | failure (reason : String)
  | crash (description : String)
deriving DecidableEq

/-- The answer of a call that finds and changes nothing. -/
def emptyReply : (call : Store.Call) → Except Store.Failure call.Reply
  | .get _ => .ok none
  | .list _ => .ok []
  | .insert _ => .error (.unavailable "nothing was inserted")
  | .updateOwned _ _ _ => .ok (0 : Nat)
  | .deleteOwned _ _ => .ok (0 : Nat)

/-- What requests act on. -/
structure World where
  store : Store
  transport : Mail.MemoryTransport
  faults : CallKind → Option Fault

namespace World

/-- A world in which nothing misbehaves. -/
def ofStore (store : Store) (transport : Mail.MemoryTransport) : World :=
  ⟨store, transport, fun _ => none⟩

/-- The world in which calls of one kind misbehave, or no longer do. -/
def setFault (world : World) (kind : CallKind) (fault : Option Fault) : World :=
  { world with
    faults := fun other => if other = kind then fault else world.faults other }

/-- What a call comes to. -/
inductive Reaction (Reply : Type) where
  | replied (reply : Except Store.Failure Reply)
  | crashed (description : String)

/-- The world after a call of the store, and what the call comes to. -/
def perform (world : World) (now : Time.Instant) (call : Store.Call) :
    World × Reaction call.Reply :=
  match world.faults (kindOf call) with
  | none =>
      let (store, reply) := world.store.perform now call
      ({ world with store := store }, .replied reply)
  | some .nothing => (world, .replied (emptyReply call))
  | some (.failure reason) => (world, .replied (.error (.unavailable reason)))
  | some (.crash description) => (world, .crashed description)

variable {Result : Type}

/-- Runs a request, the clock showing `now`. -/
def run (world : World) (now : Time.Instant) :
    Program (Except ServiceError Result) → World × Except ServiceError Result
  | .finish result => (world, result)
  | .call query next =>
      match world.perform now query with
      | (after, .replied reply) => run after now (next reply)
      | (after, .crashed description) => (after, .error (.crashed description))
  | .deliver mail next =>
      let (transport, reply) := world.transport.send mail
      run { world with transport := transport } now (next reply)

end World

end Service

end BlockMail
