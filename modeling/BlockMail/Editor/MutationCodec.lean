import BlockMail.Editor.Mutation

/-!
# Mutations as JSON

A mutation is written as an object whose member `type` names the action and
whose other members are its arguments. An array is read as the name followed by
the arguments in order.
-/

set_option autoImplicit false

namespace BlockMail

namespace Mutation

inductive Action where
  | addBlock
  | insertBlock
  | removeBlock
  | moveBlock
  | setBlockData
  | setBlockStyle
  | setName
  | setCategory
  | setSubject
  | setDescription
  | setVisibility
deriving DecidableEq

namespace Action

def all : List Action :=
  [.addBlock, .insertBlock, .removeBlock, .moveBlock, .setBlockData,
    .setBlockStyle, .setName, .setCategory, .setSubject, .setDescription,
    .setVisibility]

def name : Action → String
  | .addBlock => "addBlock"
  | .insertBlock => "insertBlock"
  | .removeBlock => "removeBlock"
  | .moveBlock => "moveBlock"
  | .setBlockData => "setBlockData"
  | .setBlockStyle => "setBlockStyle"
  | .setName => "setName"
  | .setCategory => "setCategory"
  | .setSubject => "setSubject"
  | .setDescription => "setDescription"
  | .setVisibility => "setVisibility"

/-- The name of an action in complaints about its arguments. -/
def title : Action → String
  | .addBlock => "AddBlock"
  | .insertBlock => "InsertBlock"
  | .removeBlock => "RemoveBlock"
  | .moveBlock => "MoveBlock"
  | .setBlockData => "SetBlockData"
  | .setBlockStyle => "SetBlockStyle"
  | .setName => "SetName"
  | .setCategory => "SetCategory"
  | .setSubject => "SetSubject"
  | .setDescription => "SetDescription"
  | .setVisibility => "SetVisibility"

def ofName? (name : String) : Option Action :=
  all.find? fun action => action.name == name

end Action

def action : Mutation → Action
  | .addBlock _ _ => .addBlock
  | .insertBlock _ _ => .insertBlock
  | .removeBlock _ => .removeBlock
  | .moveBlock _ _ => .moveBlock
  | .setBlockData _ _ _ => .setBlockData
  | .setBlockStyle _ _ _ => .setBlockStyle
  | .setName _ => .setName
  | .setCategory _ => .setCategory
  | .setSubject _ => .setSubject
  | .setDescription _ => .setDescription
  | .setVisibility _ => .setVisibility

/-- The members that hold the arguments. Absent arguments are `null`. -/
def arguments : Mutation → List (String × Json)
  | .addBlock kind index =>
      [("kind", kind.toJson), ("index", Json.orNull Json.ofNat index)]
  | .insertBlock block index =>
      [("block", block.toJson), ("index", Json.orNull Json.ofNat index)]
  | .removeBlock blockId => [("blockId", .string blockId)]
  | .moveBlock blockId index =>
      [("blockId", .string blockId), ("index", .ofNat index)]
  | .setBlockData blockId key value =>
      [("blockId", .string blockId), ("key", .string key), ("value", value)]
  | .setBlockStyle blockId key value =>
      [("blockId", .string blockId), ("key", .string key),
        ("value", Json.orNull Scalar.toJson value)]
  | .setName value | .setCategory value | .setSubject value =>
      [("value", .string value)]
  | .setDescription value => [("value", Json.orNull .string value)]
  | .setVisibility value => [("value", value.toJson)]

def tagName : String := "type"

def toJson (mutation : Mutation) : Json :=
  .object ((tagName, .string mutation.action.name) :: mutation.arguments)

section Fields

open Decode Decode.Fields

/-- The largest position that a mutation can name. -/
def largestIndex : Int := Nat.pow 2 64 - 1

/-- A position in a list. -/
def indexDecoder : Decoder Deferred Nat := fun source =>
  (wholeNumber "usize" 0 largestIndex source).map Int.toNat

/-- The arguments of each action. -/
def fields : Action → Fields Deferred Mutation
  | .addBlock =>
      ((Fields.none Mutation.addBlock).and
        (required "kind" BlockKind.decode)).and (optional "index" indexDecoder)
  | .insertBlock =>
      ((Fields.none Mutation.insertBlock).and
        (required "block" Block.decode)).and (optional "index" indexDecoder)
  | .removeBlock =>
      (Fields.none Mutation.removeBlock).and (required "blockId" text)
  | .moveBlock =>
      ((Fields.none Mutation.moveBlock).and (required "blockId" text)).and
        (required "index" indexDecoder)
  | .setBlockData =>
      (((Fields.none Mutation.setBlockData).and (required "blockId" text)).and
        (required "key" text)).and (required "value" any)
  | .setBlockStyle =>
      (((Fields.none Mutation.setBlockStyle).and (required "blockId" text)).and
        (required "key" text)).and (optional "value" Scalar.decode)
  | .setName => (Fields.none Mutation.setName).and (required "value" text)
  | .setCategory =>
      (Fields.none Mutation.setCategory).and (required "value" text)
  | .setSubject => (Fields.none Mutation.setSubject).and (required "value" text)
  | .setDescription =>
      (Fields.none Mutation.setDescription).and (optional "value" text)
  | .setVisibility =>
      (Fields.none Mutation.setVisibility).and
        (required "value" Visibility.decode)

def ofArguments (action : Action) : Decoder Deferred Mutation :=
  let title := "struct variant Mutation::" ++ action.title
  let fields := fields action
  fields.decodeAs title
    (title ++ " with " ++ countElements fields.names.length)

def decodeAction (tag : Json) : Except DecodeError Action :=
  match tag with
  | .string name => alternative (Action.all.map Action.name) Action.ofName? name
  | other => .error ((layerOfJson other).mismatch "variant identifier")

def ofTagged (tag arguments : Json) : Except DecodeError Mutation := do
  ofArguments (← decodeAction tag) ⟨arguments⟩

def decode (source : Json) : Except DecodeError Mutation :=
  match source with
  | .object members =>
      match Keyed.lookup tagName members with
      | some tag => ofTagged tag (.object (Keyed.remove tagName members))
      | .none => .error (.missingField tagName)
  | .array [] => .error (.missingField tagName)
  | .array (tag :: arguments) => ofTagged tag (.array arguments)
  | other => .error ((layerOfJson other).mismatch "internally tagged enum Mutation")

end Fields

end Mutation

end BlockMail
