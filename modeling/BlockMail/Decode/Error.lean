import BlockMail.Json.Basic
import BlockMail.Text.Quoted
import BlockMail.Time.Rfc3339

/-!
# Why a value is not of a type

The causes for which a JSON value or text is refused where a typed value is
expected, and their wording.
-/

set_option autoImplicit false

namespace BlockMail

namespace Decode

/-- What was found in place of the expected value. -/
inductive Found where
  | null
  | bool (value : Bool)
  | number (value : Number)
  | text (value : String)
  | sequence
  | map
deriving DecidableEq

/-- A found value in words. -/
def Found.describe : Found → String
  | .null => "null"
  | .bool value => "boolean `" ++ (if value then "true" else "false") ++ "`"
  | .number (.integer value _) => "integer `" ++ toString value ++ "`"
  | .number (.double value) => "floating point `" ++ value.text ++ "`"
  | .text value => "string " ++ Text.quoted value
  | .sequence => "sequence"
  | .map => "map"

def Found.ofJson : Json → Found
  | .null => .null
  | .bool value => .bool value
  | .number value => .number value
  | .string value => .text value
  | .array _ => .sequence
  | .object _ => .map

end Decode

/-- The cause for which a value is refused. -/
inductive DecodeError where
  /-- The text is not JSON. -/
  | malformed
  | wrongType (found : Decode.Found) (expected : String)
  | wrongValue (found : Decode.Found) (expected : String)
  | missingField (name : String)
  | duplicateField (name : String)
  | unknownChoice (name : String) (choices : List String)
  | wrongLength (length : Nat) (expected : String)
  /-- Neither a string nor a number nor a boolean. -/
  | notScalar
  | timestamp (fault : Time.TimestampFault)
deriving DecidableEq

namespace DecodeError

/-- Names between backquotes: two joined by "or", more as a list. -/
def listChoices : List String → String
  | [] => "there are no variants"
  | [only] => "expected `" ++ only ++ "`"
  | [first, second] => "expected `" ++ first ++ "` or `" ++ second ++ "`"
  | choices =>
      "expected one of " ++
        ", ".intercalate (choices.map fun choice => "`" ++ choice ++ "`")

/-- The stand-in for the wording of a fault in JSON text. -/
def malformedText : String := "<json syntax error>"

/-- The cause in words. -/
def message : DecodeError → String
  | .malformed => malformedText
  | .wrongType found expected =>
      "invalid type: " ++ found.describe ++ ", expected " ++ expected
  | .wrongValue found expected =>
      "invalid value: " ++ found.describe ++ ", expected " ++ expected
  | .missingField name => "missing field `" ++ name ++ "`"
  | .duplicateField name => "duplicate field `" ++ name ++ "`"
  | .unknownChoice name choices =>
      "unknown variant `" ++ name ++ "`, " ++ listChoices choices
  | .wrongLength length expected =>
      "invalid length " ++ toString length ++ ", expected " ++ expected
  | .notScalar => "data did not match any variant of untagged enum Scalar"
  | .timestamp fault => fault.message

end DecodeError

end BlockMail
