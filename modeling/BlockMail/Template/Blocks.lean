import BlockMail.Template.Block

/-!
# Lists of blocks

The blocks of a template travel as JSON or as text that holds JSON; text is
parsed exactly once. Blocks that are to be stored must have distinct identifiers
that are not empty, and known types.
-/

set_option autoImplicit false

namespace BlockMail

/-- Why a payload is no list of blocks, or a list of blocks cannot be stored. -/
inductive BlocksError where
  | notASequence (found : String)
  | malformed (cause : DecodeError)
  | emptyId (index : Nat)
  | duplicateId (id : String)
  | unknownType (name : String)
deriving DecidableEq

/-- The cause in words. -/
def BlocksError.message : BlocksError → String
  | .notASequence found => "blocks must be a sequence, found " ++ found
  | .malformed cause => "malformed blocks payload: " ++ cause.message
  | .emptyId index => "block at index " ++ toString index ++ " has an empty id"
  | .duplicateId id => "duplicate block id: " ++ id
  | .unknownType name => "unknown block type: " ++ name

namespace Blocks

def toJson (blocks : List Block) : Json := .array (blocks.map Block.toJson)

/-- Decodes every item, up to the first that is no block. -/
def ofItems (items : List Json) : Except BlocksError (List Block) :=
  match items.mapM fun item => Block.decode item with
  | .ok blocks => .ok blocks
  | .error cause => .error (.malformed cause)

/-- Decodes a payload. No payload at all is a list without blocks, but text that
holds `null` is refused. -/
def decode (payload : Json) : Except BlocksError (List Block) :=
  match payload with
  | .null => .ok []
  | .array items => ofItems items
  | .string text =>
      match Json.parse? text with
      | none => .error (.malformed .malformed)
      | some (.array items) => ofItems items
      | some other => .error (.notASequence other.kindName)
  | other => .error (.notASequence other.kindName)

/-- Checks blocks in order; `seen` are the identifiers before them and `index`
is the position of the first. -/
def validateFrom (index : Nat) (seen : List String) :
    List Block → Except BlocksError Unit
  | [] => .ok ()
  | block :: rest =>
      if block.id.isEmpty then .error (.emptyId index)
      else if block.id ∈ seen then .error (.duplicateId block.id)
      else
        match block.content with
        | .foreign content => .error (.unknownType content.kind)
        | _ => validateFrom (index + 1) (block.id :: seen) rest

/-- Checks that blocks can be stored; reports the first violation. -/
def validate (blocks : List Block) : Except BlocksError Unit :=
  validateFrom 0 [] blocks

/-- Decodes a payload and checks that its blocks can be stored. -/
def decodeValid (payload : Json) : Except BlocksError (List Block) := do
  let blocks ← decode payload
  validate blocks
  return blocks

end Blocks

end BlockMail
