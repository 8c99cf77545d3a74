import BlockMail.Decode.Layer

/-!
# Decoding simple values

Strings, whole numbers, optional values, maps and plain choices, from any
carrier.
-/

set_option autoImplicit false

namespace BlockMail.Decode

variable {Source Value : Type} [Carrier Source]

abbrev Decoder (Source Value : Type) := Source → Except DecodeError Value

def any : Decoder Source Json := Carrier.whole

def text : Decoder Source String := fun source =>
  match Carrier.layer source with
  | .string value => .ok value
  | other => .error (other.mismatch "a string")

/-- A whole number between two bounds; `name` is the name of the range. -/
def wholeNumber (name : String) (least most : Int) : Decoder Source Int :=
  fun source =>
    match Carrier.layer source with
    | .number (.integer value word) =>
        if least ≤ value ∧ value ≤ most then .ok value
        else .error (.wrongValue (.number (.integer value word)) name)
    | other => .error (other.mismatch name)

def boolean : Decoder Source Bool := fun source =>
  match Carrier.layer source with
  | .bool value => .ok value
  | other => .error (other.mismatch "a boolean")

/-- A value that may be `null`. -/
def nullable (decode : Decoder Source Value) : Decoder Source (Option Value) :=
  fun source =>
    match Carrier.layer source with
    | .null => .ok none
    | _ => (decode source).map some

def members (decode : Decoder Source Value) :
    List (String × Source) → Except DecodeError (List (String × Value))
  | [] => .ok []
  | (name, source) :: rest => do
      let value ← decode source
      let values ← members decode rest
      return (name, value) :: values

/-- An object whose members all hold values of one type, in order. -/
def map (decode : Decoder Source Value) :
    Decoder Source (List (String × Value)) := fun source =>
  match Carrier.layer source with
  | .object entries complete => do
      let values ← members decode entries
      if complete then return values else throw .malformed
  | other => .error (other.mismatch "a map")

/-- Checks that a value stands for nothing: the payload of a plain choice. -/
def nothing : Decoder Source Unit := fun source =>
  match Carrier.layer source with
  | .null => .ok ()
  | .object [] true =>
      if (Carrier.manner Source).emptyObjectIsUnit then .ok ()
      else .error (.wrongType .map "unit")
  | other => .error (other.mismatch "unit")

def alternative (names : List String) (pick? : String → Option Value)
    (name : String) : Except DecodeError Value :=
  match pick? name with
  | some value => .ok value
  | none => .error (.unknownChoice name names)

/-- One of several named alternatives: its name, or an object whose only member
has that name and holds nothing. -/
def choice (names : List String) (pick? : String → Option Value) :
    Decoder Source Value := fun source =>
  let manner := Carrier.manner Source
  match Carrier.layer source with
  | .string name => alternative names pick? name
  | .object [(name, payload)] true => do
      let value ← alternative names pick? name
      nothing payload
      return value
  | .object ((name, payload) :: _) _ =>
      if manner.readsAhead then do
        let _ ← alternative names pick? name
        nothing payload
        throw manner.noSingleChoice
      else .error manner.noSingleChoice
  | .object [] _ => .error manner.noSingleChoice
  | .broken => .error .malformed
  | other => .error (manner.noChoice (other.mismatch "string or map"))

end BlockMail.Decode
