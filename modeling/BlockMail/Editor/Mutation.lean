import BlockMail.Template.Document
import BlockMail.Template.Starter

/-!
# Mutations

What an author can do to a document, one user action each. A mutation is checked
before it is applied, so a refused one leaves the document as it was. The check
and the application are separate functions.
-/

set_option autoImplicit false

namespace BlockMail

/-- One action on a document. Positions past the end stand for the end. -/
inductive Mutation where
  /-- Inserts the palette's block of a kind, at the end without a position. -/
  | addBlock (kind : BlockKind) (index : Option Nat)
  | insertBlock (block : Block) (index : Option Nat)
  | removeBlock (blockId : String)
  /-- Moves a block to a position, counted after the move. -/
  | moveBlock (blockId : String) (index : Nat)
  | setBlockData (blockId key : String) (value : Json)
  /-- Sets a style attribute; without a value it removes it. -/
  | setBlockStyle (blockId key : String) (value : Option Scalar)
  | setName (value : String)
  | setCategory (value : String)
  | setSubject (value : String)
  | setDescription (value : Option String)
  | setVisibility (value : Visibility)

/-- Why a mutation is refused. -/
inductive MutationError where
  | blockNotFound (id : String)
  | duplicateBlockId (id : String)
  | retiredBlockId (id : String)
  | emptyBlockId
  | unknownType (id typeName : String)
  | invalidData (id : String) (cause : DecodeError)
deriving DecidableEq

/-- The cause in words. -/
def MutationError.message : MutationError → String
  | .blockNotFound id => "Block not found: " ++ id
  | .duplicateBlockId id => "Duplicate block id: " ++ id
  | .retiredBlockId id =>
      "Block id was removed earlier in this session: " ++ id
  | .emptyBlockId => "Block id must not be empty"
  | .unknownType id typeName =>
      "Invalid data for block " ++ id ++ ": unknown block type: " ++ typeName
  | .invalidData id cause =>
      "Invalid data for block " ++ id ++ ": " ++ cause.message

/-! ## Lists of blocks -/

namespace Blocks

/-- The list with a block at a position, or at the end. -/
def insertAt (blocks : List Block) (index : Option Nat) (block : Block) :
    List Block :=
  blocks.insertIdx (min (index.getD blocks.length) blocks.length) block

/-- The list in which the block at one position stands at another. -/
def moveTo (blocks : List Block) (source target : Nat) : List Block :=
  match blocks[source]? with
  | some block => insertAt (blocks.eraseIdx source) (some target) block
  | none => blocks

end Blocks

namespace Document

/-- The position of a block, or the complaint that there is none. -/
def position (document : Document) (id : String) : Except MutationError Nat :=
  match document.blockIndex? id with
  | some index => .ok index
  | none => .error (.blockNotFound id)

/-- The first block with an identifier and its position. -/
def located (document : Document) (id : String) :
    Except MutationError (Nat × Block) := do
  let index ← document.position id
  match document.blocks[index]? with
  | some block => return (index, block)
  | none => throw (.blockNotFound id)

def withBlocks (document : Document) (blocks : List Block) : Document :=
  { document with blocks := blocks }

end Document

/-- Sets one field of a block's data, and names the block in the complaint. -/
def Block.edited (block : Block) (key : String) (value : Json) :
    Except MutationError Block :=
  match block.setField key value with
  | .ok edited => .ok edited
  | .error cause => .error (.invalidData block.id cause)

namespace Mutation

/-- Checks a mutation against a document. -/
def validate (mutation : Mutation) (document : Document) :
    Except MutationError Unit :=
  match mutation with
  | .insertBlock block _ =>
      if block.id.isEmpty then .error .emptyBlockId
      else if (document.findBlock? block.id).isSome then
        .error (.duplicateBlockId block.id)
      else if block.kind?.isNone then
        .error (.unknownType block.id block.content.typeName)
      else .ok ()
  | .removeBlock blockId | .moveBlock blockId _ | .setBlockStyle blockId _ _ =>
      (document.position blockId).map fun _ => ()
  | .setBlockData blockId key value => do
      let (_, block) ← document.located blockId
      let _ ← block.edited key value
      return ()
  | .addBlock _ _ | .setName _ | .setCategory _ | .setSubject _
  | .setDescription _ | .setVisibility _ => .ok ()

/-- The effect of a mutation on a document and the identifier of the block it
creates. `freshId` is the identifier for a block from the palette. -/
def perform (mutation : Mutation) (freshId : String) (document : Document) :
    Except MutationError (Document × Option String) :=
  match mutation with
  | .addBlock kind index =>
      let block := Starter.paletteBlock kind freshId
      .ok (document.withBlocks (Blocks.insertAt document.blocks index block),
        some block.id)
  | .insertBlock block index =>
      .ok (document.withBlocks (Blocks.insertAt document.blocks index block),
        some block.id)
  | .removeBlock blockId => do
      let index ← document.position blockId
      return (document.withBlocks (document.blocks.eraseIdx index), none)
  | .moveBlock blockId target => do
      let index ← document.position blockId
      return (document.withBlocks (Blocks.moveTo document.blocks index target),
        none)
  | .setBlockData blockId key value => do
      let (index, block) ← document.located blockId
      let edited ← block.edited key value
      return (document.withBlocks (document.blocks.set index edited), none)
  | .setBlockStyle blockId key value => do
      let (index, block) ← document.located blockId
      return (document.withBlocks
        (document.blocks.set index (block.setStyle key value)), none)
  | .setName value => .ok ({ document with name := value }, none)
  | .setCategory value => .ok ({ document with category := value }, none)
  | .setSubject value => .ok ({ document with subject := value }, none)
  | .setDescription value =>
      .ok ({ document with
        description := value.filter fun text => !text.isEmpty }, none)
  | .setVisibility value => .ok ({ document with visibility := value }, none)

def apply (mutation : Mutation) (freshId : String) (document : Document) :
    Except MutationError (Document × Option String) := do
  mutation.validate document
  mutation.perform freshId document

end Mutation

end BlockMail
