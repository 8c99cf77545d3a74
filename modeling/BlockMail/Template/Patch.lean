import BlockMail.Template.Document
import BlockMail.Template.Starter

/-!
# Creating and changing documents

The input of a creation and of a save, both with any subset of the editable
fields, and the checked update that a save comes down to.
-/

set_option autoImplicit false

namespace BlockMail

/-- What a creation asks for; the starter template stands in for what is left
out. -/
structure NewDocument where
  name : Option String
  category : Option String
  subject : Option String
  description : Option String
  blocks : Option Json
  visibility : Option Visibility

/-- What a save asks to change. An empty description clears it. -/
structure DocumentPatch where
  name : Option String
  category : Option String
  subject : Option String
  description : Option String
  blocks : Option Json
  visibility : Option Visibility

/-- A checked change of fields. A field without a value stays as it is; the
description may also be set to none. -/
structure FieldUpdate where
  name : Option String
  category : Option String
  subject : Option String
  description : Option (Option String)
  blocks : Option (List Block)
  visibility : Option Visibility

/-- Where a save landed, and whether it made a fork. -/
structure SaveOutcome where
  id : DocumentId
  created : Bool
deriving DecidableEq

def nonEmptyText? (text : String) : Option String :=
  if text.isEmpty then none else some text

section Fields

variable {Source : Type} [Decode.Carrier Source]

open Decode Decode.Fields

/-- The editable fields, shared by creation and save. -/
def editableFields {Record : Type}
    (make : Option String → Option String → Option String → Option String →
      Option Json → Option Visibility → Record) : Fields Source Record :=
  ((((((Fields.none make).and
    (optional "name" text)).and
    (optional "category" text)).and
    (optional "subject" text)).and
    (optional "description" text)).and
    (optionalNamed ["blocks", "sections"] any)).and
    (optional "visibility" Visibility.decode)

def NewDocument.decode : Decoder Source NewDocument :=
  (editableFields NewDocument.mk).decode "NewDocument"

def DocumentPatch.decode : Decoder Source DocumentPatch :=
  (editableFields DocumentPatch.mk).decode "DocumentPatch"

def SaveOutcome.decode : Decoder Source SaveOutcome :=
  (((Fields.none SaveOutcome.mk).and (required "id" DocumentId.decode)).and
    (required "created" boolean)).decode "SaveOutcome"

end Fields

def SaveOutcome.toJson (outcome : SaveOutcome) : Json :=
  .object [("id", outcome.id.toJson), ("created", .bool outcome.created)]

/-- The document that a creation makes. -/
def NewDocument.toDocument (input : NewDocument) (id : DocumentId)
    (owner : UserId) (now : Time.Instant) : Except BlocksError Document := do
  let blocks ←
    match input.blocks with
    | some payload => Blocks.decodeValid payload
    | none => pure Starter.blocks
  return {
    id := id
    owner := owner
    name := input.name.getD Starter.untitledName
    category := input.category.getD Starter.defaultCategory
    subject := input.subject.getD Starter.defaultSubject
    description := input.description.bind nonEmptyText?
    visibility := input.visibility.getD .ownerOnly
    forkedFrom := none
    blocks := blocks
    updatedAt := now }

namespace DocumentPatch

/-- The checked update. A payload of blocks that is no array and no text is
refused, `null` leaves the blocks as they are. -/
def toUpdate (patch : DocumentPatch) : Except BlocksError FieldUpdate := do
  let blocks ←
    match patch.blocks with
    | some (.array items) => (Blocks.decodeValid (.array items)).map some
    | some (.string text) => (Blocks.decodeValid (.string text)).map some
    | some .null | none => pure none
    | some (.bool _) => throw (.notASequence "boolean")
    | some (.number _) => throw (.notASequence "number")
    | some (.object _) => throw (.notASequence "object")
  return ⟨patch.name, patch.category, patch.subject,
    patch.description.map nonEmptyText?, blocks, patch.visibility⟩

/-- The patch without the fields it leaves alone. -/
def toJson (patch : DocumentPatch) : Json :=
  .object
    (Json.memberIfSome "name" .string patch.name ++
      Json.memberIfSome "category" .string patch.category ++
      Json.memberIfSome "subject" .string patch.subject ++
      Json.memberIfSome "description" .string patch.description ++
      Json.memberIfSome "blocks" id patch.blocks ++
      Json.memberIfSome "visibility" Visibility.toJson patch.visibility)

end DocumentPatch

namespace FieldUpdate

/-- Whether the update changes nothing. -/
def isEmpty (update : FieldUpdate) : Bool :=
  update.name.isNone && update.category.isNone && update.subject.isNone &&
    update.description.isNone && update.blocks.isNone &&
    update.visibility.isNone

/-- The document with the fields of the update. Its identifier, owner, origin
and time stay. -/
def applyTo (update : FieldUpdate) (document : Document) : Document :=
  { document with
    name := update.name.getD document.name
    category := update.category.getD document.category
    subject := update.subject.getD document.subject
    description := update.description.getD document.description
    blocks := update.blocks.getD document.blocks
    visibility := update.visibility.getD document.visibility }

/-- The changed fields; a cleared description is `null`. -/
def toJson (update : FieldUpdate) : Json :=
  .object
    (Json.memberIfSome "name" .string update.name ++
      Json.memberIfSome "category" .string update.category ++
      Json.memberIfSome "subject" .string update.subject ++
      Json.memberIfSome "description" (Json.orNull .string) update.description ++
      Json.memberIfSome "blocks" Blocks.toJson update.blocks ++
      Json.memberIfSome "visibility" Visibility.toJson update.visibility)

end FieldUpdate

end BlockMail
