import BlockMail.Decode.Record
import BlockMail.Keyed.ByArrival
import BlockMail.Keyed.ByKey

/-!
# Scalars, style maps and contexts

A scalar is a string, a number or a boolean. A style map holds the presentation
attributes of a block in authoring order; a context holds the values of
placeholders, in order of their keys.
-/

set_option autoImplicit false

namespace BlockMail

/-- A string, a number or a boolean. -/
inductive Scalar where
  | text (value : String)
  | number (value : Number)
  | bool (value : Bool)
deriving DecidableEq

namespace Scalar

/-- The scalar as it appears in rendered text. -/
def toText : Scalar → String
  | .text value => value
  | .number value => value.text
  | .bool value => if value then "true" else "false"

/-- Only the empty string is empty. -/
def isEmpty : Scalar → Bool
  | .text value => value.isEmpty
  | _ => false

/-- The string of a scalar that is one. -/
def asText? : Scalar → Option String
  | .text value => some value
  | _ => none

def toJson : Scalar → Json
  | .text value => .string value
  | .number value => .number value
  | .bool value => .bool value

def ofJson? : Json → Option Scalar
  | .string value => some (.text value)
  | .number value => some (.number value)
  | .bool value => some (.bool value)
  | _ => none

variable {Source : Type} [Decode.Carrier Source]

def decode : Decode.Decoder Source Scalar := fun source => do
  match ofJson? (← Decode.any source) with
  | some scalar => return scalar
  | none => throw .notScalar

theorem ofJson?_toJson (scalar : Scalar) : ofJson? scalar.toJson = some scalar := by
  cases scalar <;> rfl

end Scalar

/-- Presentation attributes of a block, in authoring order. -/
abbrev StyleMap := ByArrival Scalar

/-- The values of placeholders, in order of their keys. -/
abbrev Context := ByKey Scalar

def scalarsToJson (entries : List (String × Scalar)) : Json :=
  .object (entries.map fun (key, value) => (key, value.toJson))

namespace StyleMap

variable {Source : Type} [Decode.Carrier Source]

def toJson (style : StyleMap) : Json := scalarsToJson style.entries

def decode : Decode.Decoder Source StyleMap := fun source =>
  (Decode.map Scalar.decode source).map ByArrival.ofList

end StyleMap

namespace Context

variable {Source : Type} [Decode.Carrier Source]

def toJson (context : Context) : Json := scalarsToJson context.entries

def decode : Decode.Decoder Source Context := fun source =>
  (Decode.map Scalar.decode source).map ByKey.ofList

end Context

end BlockMail
