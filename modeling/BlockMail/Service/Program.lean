import BlockMail.Service.Error
import BlockMail.Store.Basic

/-!
# Requests as programs

A request is a sequence of calls to a store and a transport, each depending on
the answers before it. Written out as a program it can be run in one go, or one
call at a time between the calls of other requests.
-/

set_option autoImplicit false

namespace BlockMail.Service

/-- Calls, and a result in the end. -/
inductive Program (Result : Type) where
  | finish (result : Result)
  | call (query : Store.Call)
      (next : Except Store.Failure query.Reply → Program Result)
  | deliver (mail : Mail.OutgoingMail)
      (next : Except Mail.TransportError Mail.Delivery → Program Result)

namespace Program

variable {Result Next : Type}

/-- One program after the other. -/
def andThen (program : Program Result) (onward : Result → Program Next) :
    Program Next :=
  match program with
  | .finish result => onward result
  | .call query next => .call query fun reply => (next reply).andThen onward
  | .deliver mail next =>
      .deliver mail fun reply => (next reply).andThen onward

instance : Monad Program where
  pure := .finish
  bind := andThen

end Program

/-- A program that may be refused. -/
abbrev Request := ExceptT ServiceError Program

namespace Request

variable {Result Cause : Type}

def ofExcept (refusal : Cause → ServiceError) :
    Except Cause Result → Request Result
  | .ok result => pure result
  | .error cause => throw (refusal cause)

def ask (call : Store.Call) : Request call.Reply :=
  ExceptT.mk (.call call fun reply =>
    match reply with
    | .ok answer => .finish (.ok answer)
    | .error failure => .finish (.error (.store failure)))

/-- The outcome of handing a mail over. -/
def hand (mail : Mail.OutgoingMail) : Request Mail.Delivery :=
  ExceptT.mk (.deliver mail fun reply =>
    match reply with
    | .ok delivery => .finish (.ok delivery)
    | .error cause => .finish (.error (.transport cause)))

end Request

end BlockMail.Service
