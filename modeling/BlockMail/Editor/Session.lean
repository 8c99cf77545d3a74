import BlockMail.Editor.Mutation
import BlockMail.Html.Page
import BlockMail.Html.PlainText
import BlockMail.Template.Patch

/-!
# Editing sessions

One author's working copy of a document: the document, the selected block, the
identifiers that may not come back, whether there are unsaved changes, and the
number of mutations applied. A failed step leaves the session as it was.
-/

set_option autoImplicit false

namespace BlockMail

/-- A working copy. -/
structure EditSession where
  document : Document
  selectedId : Option String
  /-- Identifiers of blocks removed during the session. -/
  retired : List String
  isDirty : Bool
  /-- How many mutations were applied. A counter of 64 bits does the same: no session comes to
  2^64 of them. -/
  version : Nat

/-- Why a step of a session fails. -/
inductive EditError where
  | mutation (cause : MutationError)
  | unknownSelection (id : String)
deriving DecidableEq

/-- The cause in words. -/
def EditError.message : EditError → String
  | .mutation cause => "Mutation error: " ++ cause.message
  | .unknownSelection id => "Cannot select unknown block: " ++ id

/-- A mutation and the identifier for a block it takes from the palette. -/
structure Edit where
  mutation : Mutation
  freshId : String

namespace EditSession

def start (document : Document) : EditSession := ⟨document, none, [], false, 0⟩

/-- Refuses to insert a block whose identifier was removed before. -/
def checkRetired (session : EditSession) : Mutation → Except MutationError Unit
  | .insertBlock block _ =>
      if block.id ∈ session.retired then .error (.retiredBlockId block.id)
      else .ok ()
  | _ => .ok ()

/-- The identifier that a mutation takes out of use. -/
def removedId? : Mutation → Option String
  | .removeBlock blockId => some blockId
  | _ => none

/-- The selection after a mutation: a new block is selected, a removed block no
longer is. -/
def selectionAfter (selected created removed : Option String) : Option String :=
  match created with
  | some id => some id
  | none => if removed.isSome ∧ selected = removed then none else selected

/-- The document after a mutation that the session admits, and the identifier of
the block it created. -/
def edited (session : EditSession) (edit : Edit) :
    Except MutationError (Document × Option String) := do
  session.checkRetired edit.mutation
  edit.mutation.apply edit.freshId session.document

/-- The session after a mutation, and the identifier of the block it created. -/
def apply (session : EditSession) (edit : Edit) :
    Except EditError (EditSession × Option String) :=
  match session.edited edit with
  | .ok (document, created) =>
      let removed := removedId? edit.mutation
      .ok
        ({ document := document
           selectedId := selectionAfter session.selectedId created removed
           retired := removed.toList ++ session.retired
           isDirty := true
           version := session.version + 1 },
          created)
  | .error cause => .error (.mutation cause)

/-- Applies mutations in order, up to the first that fails; what came before it
stays applied. -/
def applyAll (session : EditSession) :
    List Edit → EditSession × Except EditError Unit
  | [] => (session, .ok ())
  | edit :: rest =>
      match session.apply edit with
      | .ok (next, _) => next.applyAll rest
      | .error cause => (session, .error cause)

def select (session : EditSession) (id : Option String) :
    Except EditError EditSession :=
  match id with
  | some id =>
      if (session.document.findBlock? id).isNone then
        .error (.unknownSelection id)
      else .ok { session with selectedId := some id }
  | none => .ok { session with selectedId := none }

def selectedBlock? (session : EditSession) : Option Block :=
  session.selectedId.bind session.document.findBlock?

/-- The page of the working copy. -/
def preview (session : EditSession) (context : Context) : String :=
  Html.page session.document.blocks context .default

/-- The plain text of the working copy. -/
def previewText (session : EditSession) (context : Context) : String :=
  Html.plainPage session.document.blocks context

/-- The patch that saves the working copy: every editable field. -/
def toPatch (session : EditSession) : DocumentPatch :=
  let document := session.document
  { name := some document.name
    category := some document.category
    subject := some document.subject
    description := some (document.description.getD "")
    blocks := some (Blocks.toJson document.blocks)
    visibility := some document.visibility }

/-- The document after a save that made a fork: it carries the identifier of the
fork, belongs to the requester, is private, and is derived from the document it
was before. -/
def forked (document : Document) (id : DocumentId) (requester : UserId) :
    Document :=
  { document with
    id := id
    forkedFrom := some document.id
    owner := requester
    visibility := .ownerOnly }

/-- The session after its save has been carried out. -/
def markSaved (session : EditSession) (outcome : SaveOutcome)
    (requester : UserId) : EditSession :=
  { session with
    document :=
      if outcome.created then forked session.document outcome.id requester
      else session.document
    isDirty := false }

end EditSession

end BlockMail
