/-!
# Port numbers

Reading a port from text: an optional plus sign and digits, up to 65535.
-/

set_option autoImplicit false

namespace BlockMail.Number

/-- Why a text is no port number. -/
inductive PortFault where
  | empty
  | invalidDigit
  | tooLarge
deriving DecidableEq

def PortFault.message : PortFault → String
  | .empty => "cannot parse integer from empty string"
  | .invalidDigit => "invalid digit found in string"
  | .tooLarge => "number too large to fit in target type"

def largestPort : Nat := 65535

/-- Reads digits after those that make up `value`. The first fault from the left
is reported. -/
def readPortDigits (value : Nat) : List Char → Except PortFault Nat
  | [] => .ok value
  | digit :: rest =>
      if !digit.isDigit then .error .invalidDigit
      else
        let next := value * 10 + (digit.toNat - '0'.toNat)
        if largestPort < next then .error .tooLarge
        else readPortDigits next rest

def readPort (text : String) : Except PortFault Nat :=
  match text.toList with
  | [] => .error .empty
  | ['+'] => .error .invalidDigit
  | '+' :: digits => readPortDigits 0 digits
  | digits => readPortDigits 0 digits

end BlockMail.Number
