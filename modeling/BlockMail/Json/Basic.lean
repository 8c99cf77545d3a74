import BlockMail.Number.Basic
import BlockMail.Keyed.Pairs

/-!
# JSON values

A JSON value whose objects keep their members in order of arrival.
-/

set_option autoImplicit false

namespace BlockMail

inductive Json where
  | null
  | bool (value : Bool)
  | number (value : Number)
  | string (value : String)
  | array (items : List Json)
  | object (members : List (String × Json))

namespace Json

/-- An object without members. -/
def emptyObject : Json := .object []

/-- A natural number as a JSON number. -/
def ofNat (value : Nat) : Json := .number (.ofInt value)

/-- The value, or `null` when there is none. -/
def orNull {Value : Type} (encode : Value → Json) : Option Value → Json
  | none => .null
  | some value => encode value

/-- A member that is left out when there is no value. -/
def memberIfSome {Value : Type} (name : String) (encode : Value → Json) :
    Option Value → List (String × Json)
  | none => []
  | some value => [(name, encode value)]

/-- The member of an object under a name. -/
def member? (name : String) : Json → Option Json
  | .object members => Keyed.lookup name members
  | _ => none

/-- What a value is, in the words used for a value of the wrong shape. -/
def kindName : Json → String
  | .null => "null"
  | .bool _ => "boolean"
  | .number _ => "number"
  | .string _ => "string"
  | .array _ => "array"
  | .object _ => "object"

def isNull : Json → Bool
  | .null => true
  | _ => false

end Json

end BlockMail
