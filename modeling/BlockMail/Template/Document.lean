import BlockMail.Template.Blocks
import BlockMail.Template.Identity
import BlockMail.Template.Visibility

/-!
# Documents

A document is a complete template: its blocks in rendering order, what is said
about it, its owner and its visibility. A record is a stored document; its
blocks are whatever the store kept, an array or text that holds one. A summary
is a document without blocks.
-/

set_option autoImplicit false

namespace BlockMail

structure Document where
  id : DocumentId
  owner : UserId
  name : String
  category : String
  subject : String
  description : Option String
  visibility : Visibility
  forkedFrom : Option DocumentId
  blocks : List Block
  updatedAt : Time.Instant

/-- A document as a store hands it back. -/
structure DocumentRecord where
  id : DocumentId
  owner : UserId
  name : String
  category : String
  subject : String
  description : Option String
  visibility : Visibility
  forkedFrom : Option DocumentId
  blocks : Json
  updatedAt : Time.Instant

/-- An entry of a listing. -/
structure Summary where
  id : DocumentId
  owner : UserId
  name : String
  category : String
  subject : String
  visibility : Visibility
  forkedFrom : Option DocumentId
  updatedAt : Time.Instant
deriving DecidableEq

def DocumentId.toJson (id : DocumentId) : Json := .string id.text

def UserId.toJson (user : UserId) : Json := .string user.text

def Time.Instant.toJson (instant : Time.Instant) : Json := .string instant.text

section Fields

variable {Source : Type} [Decode.Carrier Source]

def DocumentId.decode : Decode.Decoder Source DocumentId := fun source =>
  (Decode.text source).map DocumentId.mk

def UserId.decode : Decode.Decoder Source UserId := fun source =>
  (Decode.text source).map UserId.mk

def Time.Instant.decode : Decode.Decoder Source Time.Instant := fun source =>
  match Decode.Carrier.layer source with
  | .string text =>
      match Time.readLenient text with
      | .ok instant => .ok instant
      | .error fault => .error (.timestamp fault)
  | other => .error (other.mismatch "an RFC 3339 formatted date and time string")

/-- The items of an array, decoded in order. -/
def Blocks.decodeArray : Decode.Decoder Source (List Block) := fun source =>
  match Decode.Carrier.layer source with
  | .array items => items.mapM Block.decode
  | other => .error (other.mismatch "a sequence")

end Fields

namespace Document

/-- Whether a user may read the document. -/
def isVisibleTo (document : Document) (requester : UserId) : Bool :=
  document.visibility == .everyone || document.owner == requester

def summary (document : Document) : Summary :=
  ⟨document.id, document.owner, document.name, document.category,
    document.subject, document.visibility, document.forkedFrom,
    document.updatedAt⟩

/-- The first block with an identifier. -/
def findBlock? (document : Document) (id : String) : Option Block :=
  document.blocks.find? fun block => block.id == id

/-- The position of the first block with an identifier. -/
def blockIndex? (document : Document) (id : String) : Option Nat :=
  document.blocks.findIdx? fun block => block.id == id

/-- The record that stores the document with structured blocks. -/
def toRecord (document : Document) : DocumentRecord :=
  ⟨document.id, document.owner, document.name, document.category,
    document.subject, document.description, document.visibility,
    document.forkedFrom, Blocks.toJson document.blocks, document.updatedAt⟩

/-- The document that a record stores, if its blocks decode. -/
def ofRecord (record : DocumentRecord) : Except BlocksError Document := do
  let blocks ← Blocks.decode record.blocks
  return ⟨record.id, record.owner, record.name, record.category,
    record.subject, record.description, record.visibility, record.forkedFrom,
    blocks, record.updatedAt⟩

def toJson (document : Document) : Json :=
  .object
    ([("id", document.id.toJson), ("owner", document.owner.toJson),
        ("name", .string document.name), ("category", .string document.category),
        ("subject", .string document.subject)] ++
      Json.memberIfSome "description" .string document.description ++
      [("visibility", document.visibility.toJson)] ++
      Json.memberIfSome "forkedFrom" DocumentId.toJson document.forkedFrom ++
      [("blocks", Blocks.toJson document.blocks),
        ("updatedAt", document.updatedAt.toJson)])

section Fields

variable {Source : Type} [Decode.Carrier Source]

open Decode Decode.Fields

def fields : Fields Source Document :=
  ((((((((((Fields.none Document.mk).and
    (required "id" DocumentId.decode)).and
    (required "owner" UserId.decode)).and
    (required "name" text)).and
    (required "category" text)).and
    (required "subject" text)).and
    (optional "description" text)).and
    (required "visibility" Visibility.decode)).and
    (optional "forkedFrom" DocumentId.decode)).and
    (required "blocks" Blocks.decodeArray)).and
    (required "updatedAt" Time.Instant.decode)

def decode : Decoder Source Document := fields.decode "Document"

end Fields

end Document

namespace DocumentRecord

def summary (record : DocumentRecord) : Summary :=
  ⟨record.id, record.owner, record.name, record.category, record.subject,
    record.visibility, record.forkedFrom, record.updatedAt⟩

/-- Whether a user may read the record. -/
def isVisibleTo (record : DocumentRecord) (requester : UserId) : Bool :=
  record.visibility == .everyone || record.owner == requester

def toJson (record : DocumentRecord) : Json :=
  .object
    [("id", record.id.toJson), ("owner", record.owner.toJson),
      ("name", .string record.name), ("category", .string record.category),
      ("subject", .string record.subject),
      ("description", Json.orNull .string record.description),
      ("visibility", record.visibility.toJson),
      ("forkedFrom", Json.orNull DocumentId.toJson record.forkedFrom),
      ("blocks", record.blocks), ("updatedAt", record.updatedAt.toJson)]

section Fields

variable {Source : Type} [Decode.Carrier Source]

open Decode Decode.Fields

def fields : Fields Source DocumentRecord :=
  ((((((((((Fields.none DocumentRecord.mk).and
    (required "id" DocumentId.decode)).and
    (required "owner" UserId.decode)).and
    (required "name" text)).and
    (required "category" text)).and
    (required "subject" text)).and
    (optional "description" text)).and
    (required "visibility" Visibility.decode)).and
    (optional "forkedFrom" DocumentId.decode)).and
    (required "blocks" any)).and
    (required "updatedAt" Time.Instant.decode)

def decode : Decoder Source DocumentRecord := fields.decode "DocumentRecord"

end Fields

end DocumentRecord

def Summary.toJson (summary : Summary) : Json :=
  .object
    ([("id", summary.id.toJson), ("owner", summary.owner.toJson),
        ("name", .string summary.name), ("category", .string summary.category),
        ("subject", .string summary.subject),
        ("visibility", summary.visibility.toJson)] ++
      Json.memberIfSome "forkedFrom" DocumentId.toJson summary.forkedFrom ++
      [("updatedAt", summary.updatedAt.toJson)])

end BlockMail
