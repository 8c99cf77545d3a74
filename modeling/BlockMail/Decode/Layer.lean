import BlockMail.Decode.Error
import BlockMail.Json.Draft

/-!
# Carriers of values

A decoder looks into a value one layer at a time, so the same decoder reads a
JSON value, a value that waits inside a tagged record, and JSON text that is
still a draft. The three carriers differ in little: which complaint a surplus
item or a stray value meets, and whether the text behind the layer may be
broken.
-/

set_option autoImplicit false

namespace BlockMail

namespace Decode

/-- One layer of a value. An object that is not `complete` ends in broken text
after the members it shows. -/
inductive Layer (Carrier : Type) where
  | broken
  | null
  | bool (value : Bool)
  | number (value : Number)
  | string (value : String)
  | array (items : List Carrier)
  | object (members : List (String × Carrier)) (complete : Bool)

/-- The complaint about a layer where something else is expected. -/
def Layer.mismatch {Carrier : Type} (expected : String) :
    Layer Carrier → DecodeError
  | .broken => .malformed
  | .null => .wrongType .null expected
  | .bool value => .wrongType (.bool value) expected
  | .number value => .wrongType (.number value) expected
  | .string value => .wrongType (.text value) expected
  | .array _ => .wrongType .sequence expected
  | .object _ _ => .wrongType .map expected

/-- The decisions in which carriers differ. -/
structure Manner where
  /-- The complaint about a record written as an array of too many items, from
  the number of items and the number of fields. -/
  surplus : Nat → Nat → DecodeError
  /-- The complaint about a choice that is neither a string nor an object. -/
  noChoice : DecodeError → DecodeError
  /-- The complaint about an object that should name one choice. -/
  noSingleChoice : DecodeError
  /-- Whether the first member of such an object is read before the others are
  counted. -/
  readsAhead : Bool
  /-- Whether an empty object stands for no value. -/
  emptyObjectIsUnit : Bool

/-- A type whose values a decoder can look into. -/
class Carrier (Value : Type) where
  layer : Value → Layer Value
  /-- The value with everything below it. -/
  whole : Value → Except DecodeError Json
  /-- Passes over a value that is not needed. -/
  skip : Value → Except DecodeError Unit
  manner : Manner

/-- A choice must name exactly one of its alternatives. -/
def singleChoiceExpected : DecodeError :=
  .wrongValue .map "map with a single key"

/-! ## JSON values -/

/-- The topmost layer of a JSON value. -/
def layerOfJson : Json → Layer Json
  | .null => .null
  | .bool value => .bool value
  | .number value => .number value
  | .string value => .string value
  | .array items => .array items
  | .object members => .object members true

instance : Carrier Json where
  layer := layerOfJson
  whole value := .ok value
  skip _ := .ok ()
  manner :=
    { surplus := fun length _ =>
        .wrongLength length "fewer elements in array"
      noChoice := id
      noSingleChoice := singleChoiceExpected
      readsAhead := false
      emptyObjectIsUnit := false }

/-! ## Values inside a tagged record -/

/-- A value that was set aside until the tag of its record was known. -/
structure Deferred where
  value : Json

/-- The topmost layer of a deferred value. -/
def layerOfDeferred (deferred : Deferred) : Layer Deferred :=
  match deferred.value with
  | .null => .null
  | .bool value => .bool value
  | .number value => .number value
  | .string value => .string value
  | .array items => .array (items.map Deferred.mk)
  | .object members =>
      .object (members.map fun (name, value) => (name, ⟨value⟩)) true

/-- "1 element" or "5 elements", within a sequence. -/
def elementsInSequence (count : Nat) : String :=
  if count = 1 then "1 element in sequence"
  else toString count ++ " elements in sequence"

instance : Carrier Deferred where
  layer := layerOfDeferred
  whole deferred := .ok deferred.value
  skip _ := .ok ()
  manner :=
    { surplus := fun length expected =>
        .wrongLength length (elementsInSequence expected)
      noChoice := id
      noSingleChoice := singleChoiceExpected
      readsAhead := false
      emptyObjectIsUnit := true }

/-! ## Drafts -/

/-- A draft and how many levels of nesting may still be entered. -/
structure Reading where
  draft : Json.Draft
  depth : Nat

/-- The members up to the first whose name spells nothing, and whether those
are all. -/
def namedMembers (depth : Nat) :
    List (Option String × Json.Draft) → List (String × Reading) × Bool
  | [] => ([], true)
  | (none, _) :: _ => ([], false)
  | (some name, value) :: rest =>
      let (members, complete) := namedMembers depth rest
      ((name, ⟨value, depth⟩) :: members, complete)

/-- The topmost layer of a draft; a level too deep is broken. -/
def layerOfReading (reading : Reading) : Layer Reading :=
  match reading.draft with
  | .broken => .broken
  | .null => .null
  | .bool value => .bool value
  | .number (some value) => .number value
  | .number none => .broken
  | .string (some value) => .string value
  | .string none => .broken
  | .array items =>
      if reading.depth ≤ 1 then .broken
      else .array (items.map (⟨·, reading.depth - 1⟩))
  | .object members =>
      if reading.depth ≤ 1 then .broken
      else
        let (members, complete) := namedMembers (reading.depth - 1) members
        .object members complete

instance : Carrier Reading where
  layer := layerOfReading
  whole reading :=
    match reading.draft.toJson? reading.depth with
    | some value => .ok value
    | none => .error .malformed
  skip reading :=
    if reading.draft.wellFormed then .ok () else .error .malformed
  manner :=
    { surplus := fun _ _ => .malformed
      noChoice := fun _ => .malformed
      noSingleChoice := .malformed
      readsAhead := true
      emptyObjectIsUnit := false }

/-- The first value of a text as a carrier. -/
def Reading.ofText (text : String) : Reading :=
  ⟨(Json.Draft.read text).1, Json.nestingLimit⟩

/-- Decodes the first value of a text; text after it is not looked at. -/
def fromText {Value : Type} (decode : Reading → Except DecodeError Value)
    (text : String) : Except DecodeError Value :=
  decode (.ofText text)

/-- Decodes a text that must hold exactly one value. A fault inside the value is
reported before text after it. -/
def fromWholeText {Value : Type}
    (decode : Reading → Except DecodeError Value) (text : String) :
    Except DecodeError Value := do
  let (draft, rest) := Json.Draft.read text
  let value ← decode ⟨draft, Json.nestingLimit⟩
  if (Json.skipSpaces rest).isEmpty then return value else throw .malformed

end Decode

end BlockMail
