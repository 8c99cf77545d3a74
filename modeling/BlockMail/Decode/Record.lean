import BlockMail.Decode.Simple

/-!
# Decoding records

A record is an object with named fields, or an array of the fields in their
order of declaration. In an object the fields are checked in the order in which
they are written, unknown ones are passed over, and only then is a missing field
reported, in order of declaration.
-/

set_option autoImplicit false

namespace BlockMail.Decode

variable {Source : Type} [Carrier Source]

/-- A description of the fields of a record of type `Record`. Fields are
numbered in order of declaration. -/
structure Fields (Source Record : Type) where
  /-- The names each field goes by; the first is its proper name. -/
  names : List (List String)
  /-- Checks the value written for a field. -/
  check : Nat → Source → Except DecodeError Unit
  /-- Builds the record from the values written for its fields. `missing` says
  what to report for a required field without a value. -/
  build : (missing : Nat → String → DecodeError) → (Nat → Option Source) →
    Except DecodeError Record

namespace Fields

variable {Record Next : Type}

def none (record : Record) : Fields Source Record where
  names := []
  check _ _ := .ok ()
  build _ _ := .ok record

/-- The fields of two descriptions, one after the other. -/
def and (first : Fields Source (Next → Record)) (second : Fields Source Next) :
    Fields Source Record where
  names := first.names ++ second.names
  check index source :=
    if index < first.names.length then first.check index source
    else second.check (index - first.names.length) source
  build missing values := do
    let make ← first.build missing values
    let next ← second.build
      (fun index => missing (index + first.names.length))
      (fun index => values (index + first.names.length))
    return make next

def single (names : List String) (decode : Decoder Source Record)
    (absent : DecodeError → Except DecodeError Record) :
    Fields Source Record where
  names := [names]
  check _ source := (decode source).map fun _ => ()
  build missing values :=
    match values 0 with
    | some source => decode source
    | .none => absent (missing 0 (names.headD ""))

/-- A field that must be there. -/
def required (name : String) (decode : Decoder Source Record) :
    Fields Source Record :=
  single [name] decode .error

/-- A field with a value to use when it is absent. -/
def defaulted (name : String) (default : Record)
    (decode : Decoder Source Record) : Fields Source Record :=
  single [name] decode fun _ => .ok default

/-- A field that may be absent or `null`, under any of several names. -/
def optionalNamed (names : List String) (decode : Decoder Source Record) :
    Fields Source (Option Record) :=
  single names (nullable decode) fun _ => .ok .none

/-- A field that may be absent or `null`. -/
def optional (name : String) (decode : Decoder Source Record) :
    Fields Source (Option Record) :=
  optionalNamed [name] decode

/-- The number of the field that goes by a name. -/
def index? (fields : Fields Source Record) (name : String) : Option Nat :=
  fields.names.findIdx? (·.contains name)

/-- Checks members in the order in which they are written; `seen` numbers the
fields already met. -/
def checkMembers (fields : Fields Source Record) (seen : List Nat) :
    List (String × Source) → Except DecodeError Unit
  | [] => .ok ()
  | (name, source) :: rest =>
      match fields.index? name with
      | .none => do
          Carrier.skip source
          checkMembers fields seen rest
      | some index =>
          if index ∈ seen then
            .error (.duplicateField ((fields.names.getD index []).headD name))
          else do
            fields.check index source
            checkMembers fields (index :: seen) rest

def written (fields : Fields Source Record)
    (members : List (String × Source)) (index : Nat) : Option Source :=
  (members.find? fun member => fields.index? member.1 == some index).map
    Prod.snd

/-- Decodes a record. `title` names the record in the complaint about a value
of another type; `form` says what an array of its fields is. -/
def decodeAs (fields : Fields Source Record) (title form : String) :
    Decoder Source Record := fun source =>
  match Carrier.layer source with
  | .object members complete => do
      fields.checkMembers [] members
      if complete then
        fields.build (fun _ name => .missingField name) (fields.written members)
      else throw .malformed
  | .array items => do
      let record ← fields.build (fun index _ => .wrongLength index form)
        fun index => items[index]?
      if fields.names.length < items.length then
        throw ((Carrier.manner Source).surplus items.length fields.names.length)
      return record
  | other => .error (other.mismatch title)

/-- "1 element" or "5 elements". -/
def countElements (count : Nat) : String :=
  if count = 1 then "1 element" else toString count ++ " elements"

def decode (fields : Fields Source Record) (name : String) :
    Decoder Source Record :=
  fields.decodeAs ("struct " ++ name)
    ("struct " ++ name ++ " with " ++ countElements fields.names.length)

end Fields

end BlockMail.Decode
