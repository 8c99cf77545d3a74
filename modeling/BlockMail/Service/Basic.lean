import BlockMail.Html.Page
import BlockMail.Html.PlainText
import BlockMail.Service.Program

/-!
# The template service

The requests that authors make about stored templates. Each reads the store,
computes, and changes the store at most once; a change that hangs on ownership
is one conditional call, so no other request comes between check and change.

A save by the owner updates the template. A save of a public template by another
user makes a private copy of it, a fork, that the user owns.
-/

set_option autoImplicit false

namespace BlockMail

/-- What the service is set up with. -/
structure Service where
  /-- The mailbox that mail comes from. -/
  sender : String
  defaultContext : Context

namespace Service

def defaultSender : String := "MailForge <noreply@mailforge.local>"

/-- The subject of mail from a template whose subject is blank. -/
def fallbackSubject : String := "No Subject"

/-- The service with a sender and values that lie over the samples of a year. -/
def ofSender (sender : String) (year : Int) (extra : Context) : Service :=
  ⟨sender, (Starter.sampleContext year).overlay extra⟩

/-- The default values, overlaid by those of a request. -/
def merged (service : Service) (context : Option Context) : Context :=
  service.defaultContext.overlay (context.getD .empty)

/-- Adds a document under the identifier `fresh`. -/
def create (requester : UserId) (input : NewDocument) (fresh : DocumentId)
    (now : Time.Instant) : Request DocumentId := do
  let document ←
    Request.ofExcept .invalidBlocks (input.toDocument fresh requester now)
  Request.ask (.insert document)

def stored (id : DocumentId) : Request DocumentRecord := do
  match ← Request.ask (.get id) with
  | some record => return record
  | none => throw (.notFound id)

/-- The record with an identifier, if the user may read it. -/
def visible (id : DocumentId) (requester : UserId) : Request DocumentRecord := do
  let record ← stored id
  if record.isVisibleTo requester then return record
  else throw (.forbidden id)

/-- The document with an identifier, if the user may read it. -/
def fetch (id : DocumentId) (requester : UserId) : Request Document := do
  let record ← visible id requester
  Request.ofExcept (.unreadable record.id) (Document.ofRecord record)

/-- The summaries of what a user may read, newest first. -/
def list (requester : UserId) : Request (List Summary) :=
  Request.ask (.list requester)

/-- Distinct texts in ascending order. -/
def distinctSorted (texts : List String) : List String :=
  (ByKey.ofList (texts.map fun text => (text, ()))).entries.map Prod.fst

/-- The categories of what a user may read that are not blank. -/
def categories (requester : UserId) : Request (List String) := do
  let summaries ← list requester
  return distinctSorted
    ((summaries.map Summary.category).filter fun category =>
      !Text.allBlank category)

/-- The copy of a record that a user's save makes, before the save's own fields
are laid over it. -/
def forkOf (record : DocumentRecord) (id : DocumentId) (blocks : List Block)
    (requester : UserId) (fresh : DocumentId) (now : Time.Instant) : Document :=
  { id := fresh
    owner := requester
    name := record.name
    category := record.category
    subject := record.subject
    description := record.description
    visibility := .ownerOnly
    forkedFrom := some id
    blocks := blocks
    updatedAt := now }

/-- The blocks of a fork: those of the save, or those of the record. -/
def forkBlocks (id : DocumentId) (record : DocumentRecord)
    (update : FieldUpdate) : Request (List Block) :=
  match update.blocks with
  | some blocks => pure blocks
  | none => Request.ofExcept (.unreadable id) (Blocks.decode record.blocks)

/-- Saves a patch: in place by the owner, as a fork under the identifier `fresh`
by another user. A fork is private whatever the patch asks for. -/
def save (id : DocumentId) (requester : UserId) (patch : DocumentPatch)
    (fresh : DocumentId) (now : Time.Instant) : Request SaveOutcome := do
  let record ← stored id
  let update ← Request.ofExcept .invalidBlocks patch.toUpdate
  if record.owner = requester then
    let affected ← Request.ask (.updateOwned id requester update)
    if affected = 0 then throw (.notFound id) else return ⟨id, false⟩
  else if record.visibility = .ownerOnly then throw (.forbidden id)
  else
    let blocks ← forkBlocks id record update
    let fork :=
      { update with visibility := none }.applyTo
        (forkOf record id blocks requester fresh now)
    let added ← Request.ask (.insert fork)
    return ⟨added, true⟩

/-- Deletes a document that the user owns. When nothing was deleted the store is
read once more, only to say why. -/
def delete (id : DocumentId) (requester : UserId) : Request Unit := do
  let affected ← Request.ask (.deleteOwned id requester)
  if affected = 1 then return ()
  else
    match ← Request.ask (.get id) with
    | some _ => throw (.forbidden id)
    | none => throw (.notFound id)

def preview (service : Service) (id : DocumentId) (requester : UserId)
    (context : Option Context) : Request String := do
  let document ← fetch id requester
  return Html.page document.blocks (service.merged context) .default

def subjectOf (document : Document) : String :=
  if Text.allBlank document.subject then fallbackSubject else document.subject

def mailOf (service : Service) (document : Document) (recipient : String)
    (context : Option Context) : Mail.OutgoingMail :=
  let values := service.merged context
  { sender := service.sender
    recipient := recipient
    subject := subjectOf document
    html := Html.page document.blocks values .default
    text := Html.plainPage document.blocks values }

/-- Sends the mail of a document. The recipient is checked before the document
is read. -/
def send (service : Service) (id : DocumentId) (requester : UserId)
    (recipient : String) (context : Option Context) : Request Mail.Delivery := do
  Request.ofExcept .invalidRecipient (Mail.checkAddress recipient)
  let document ← fetch id requester
  Request.hand (service.mailOf document recipient context)

end Service

end BlockMail
