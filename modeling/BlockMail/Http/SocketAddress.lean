import BlockMail.Network.Address
import BlockMail.Number.Port

/-!
# Listen addresses

An address and a port to listen on: a numeric address of four numbers as it is,
or one of eight groups in brackets, then a colon and the port.
-/

set_option autoImplicit false

namespace BlockMail.Http

open Network

/-- A host by its numeric address. A long address may have the number of a
scope, which is zero when none is given. -/
inductive Host where
  | short (numbers : List Nat)
  | long (groups : List Nat) (scope : Nat)
deriving DecidableEq

/-- The host of a long address, perhaps with the number of a scope. -/
def Host.ofScoped? (text : List Char) : Option Host :=
  match Text.splitAtFirst? '%' text with
  | some (address, scope) => do
      return .long (← longAddress? address) (← bounded? (Nat.pow 2 32 - 1) scope)
  | none => do return .long (← longAddress? text) 0

/-- The host as written before a port. -/
def Host.text : Host → String
  | .short numbers => shortText numbers
  | .long groups scope =>
      "[" ++ longText groups ++
        (if scope = 0 then "" else "%" ++ toString scope) ++ "]"

structure SocketAddress where
  host : Host
  port : Nat
deriving DecidableEq

namespace SocketAddress

def ofText? (text : String) : Option SocketAddress := do
  let (address, port) ← Text.splitAtLast? ':' text.toList
  let port ← bounded? Number.largestPort port
  match address with
  | '[' :: rest =>
      if rest.getLast? = some ']' then
        return ⟨← Host.ofScoped? rest.dropLast, port⟩
      else none
  | _ => return ⟨.short (← shortAddress? address), port⟩

/-- The address and port as written. -/
def text (address : SocketAddress) : String :=
  address.host.text ++ ":" ++ toString address.port

end SocketAddress

end BlockMail.Http
