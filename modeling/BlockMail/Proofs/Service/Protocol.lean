import BlockMail.Proofs.Service.Operation
import BlockMail.Proofs.Store.Entry

/-!
# Protocols of calls

A protocol says which calls a program may make next, what it may rely on in the
answers, and where it stands after each. That a program follows a protocol is
proved once, for all answers it may get; it then holds of the program wherever
its calls fall between those of others.
-/

set_option autoImplicit false

namespace BlockMail.Service

/-- What a program may do at each stage of its work. -/
structure Protocol (Stage : Type) where
  permits : Stage → Store.Call → Prop
  /-- Whether a mail may be handed over. -/
  delivers : Stage → Prop
  expects : Stage → (call : Store.Call) →
    Except Store.Failure call.Reply → Prop
  advance : Stage → (call : Store.Call) →
    Except Store.Failure call.Reply → Stage

namespace Program

variable {Stage Result Next : Type} {protocol : Protocol Stage}

/-- A program whose calls are all permitted and whose result suits the stage at
which it ends, whatever the expected answers are. -/
def Follows (protocol : Protocol Stage) (ends : Stage → Result → Prop) :
    Program Result → Stage → Prop
  | .finish result, stage => ends stage result
  | .call query next, stage =>
      protocol.permits stage query ∧
        ∀ reply, protocol.expects stage query reply →
          (next reply).Follows protocol ends
            (protocol.advance stage query reply)
  | .deliver _ next, stage =>
      protocol.delivers stage ∧
        ∀ reply, (next reply).Follows protocol ends stage

theorem Follows.mono {ends weaker : Stage → Result → Prop}
    (weaken : ∀ stage result, ends stage result → weaker stage result)
    {program : Program Result} {stage : Stage}
    (follows : program.Follows protocol ends stage) :
    program.Follows protocol weaker stage := by
  induction program generalizing stage with
  | finish result => exact weaken stage result follows
  | call query next ih =>
      exact ⟨follows.1, fun reply expected => ih reply (follows.2 reply expected)⟩
  | deliver mail next ih =>
      exact ⟨follows.1, fun reply => ih reply (follows.2 reply)⟩

theorem follows_andThen {ends : Stage → Next → Prop}
    (program : Program Result) (onward : Result → Program Next)
    (stage : Stage) :
    (program.andThen onward).Follows protocol ends stage ↔
      program.Follows protocol
        (fun stage result => (onward result).Follows protocol ends stage)
        stage := by
  induction program generalizing stage with
  | finish result => rfl
  | call query next ih =>
      simp only [andThen, Follows]
      exact and_congr_right fun _ =>
        forall_congr' fun reply => imp_congr_right fun _ => ih reply _
  | deliver mail next ih =>
      simp only [andThen, Follows]
      exact and_congr_right fun _ => forall_congr' fun reply => ih reply _

end Program

/-! ## Requests -/

namespace Request

variable {Stage Result Next Cause : Type} {protocol : Protocol Stage}
  {stage : Stage}

/-- A request whose program follows a protocol. -/
def Follows (protocol : Protocol Stage)
    (ends : Stage → Except ServiceError Result → Prop)
    (request : Request Result) (stage : Stage) : Prop :=
  request.run.Follows protocol ends stage

theorem Follows.bind {ends : Stage → Except ServiceError Next → Prop}
    {request : Request Result} {onward : Result → Request Next}
    (follows : request.Follows protocol
      (fun stage outcome =>
        match outcome with
        | .ok result => (onward result).Follows protocol ends stage
        | .error cause => ends stage (.error cause))
      stage) :
    (request >>= onward).Follows protocol ends stage := by
  unfold Follows
  rw [run_bind, Program.follows_andThen]
  refine Program.Follows.mono ?_ follows
  intro stage outcome suited
  cases outcome with
  | ok result => exact suited
  | error cause => exact suited

theorem follows_pure {ends : Stage → Except ServiceError Result → Prop}
    {result : Result} (suited : ends stage (.ok result)) :
    (pure result : Request Result).Follows protocol ends stage := suited

theorem follows_throw {ends : Stage → Except ServiceError Result → Prop}
    {cause : ServiceError} (suited : ends stage (.error cause)) :
    (throw cause : Request Result).Follows protocol ends stage := suited

theorem follows_ofExcept {ends : Stage → Except ServiceError Result → Prop}
    {refusal : Cause → ServiceError} {value : Except Cause Result}
    (accepted : ∀ result, value = .ok result → ends stage (.ok result))
    (refused : ∀ cause, value = .error cause →
      ends stage (.error (refusal cause))) :
    (ofExcept refusal value).Follows protocol ends stage := by
  cases value with
  | ok result => exact accepted result rfl
  | error cause => exact refused cause rfl

theorem follows_ask {call : Store.Call}
    {ends : Stage → Except ServiceError call.Reply → Prop}
    (permitted : protocol.permits stage call)
    (answered : ∀ answer, protocol.expects stage call (.ok answer) →
      ends (protocol.advance stage call (.ok answer)) (.ok answer))
    (failed : ∀ failure, protocol.expects stage call (.error failure) →
      ends (protocol.advance stage call (.error failure))
        (.error (.store failure))) :
    (ask call).Follows protocol ends stage := by
  refine ⟨permitted, ?_⟩
  intro reply expected
  cases reply with
  | ok answer => exact answered answer expected
  | error failure => exact failed failure expected

theorem follows_hand {mail : Mail.OutgoingMail}
    {ends : Stage → Except ServiceError Mail.Delivery → Prop}
    (delivers : protocol.delivers stage)
    (delivered : ∀ delivery, ends stage (.ok delivery))
    (failed : ∀ cause, ends stage (.error (.transport cause))) :
    (hand mail).Follows protocol ends stage := by
  refine ⟨delivers, ?_⟩
  intro reply
  cases reply with
  | ok delivery => exact delivered delivery
  | error cause => exact failed cause

end Request

/-! ## Outcomes -/

section Outcomes

variable {Result Next : Type}

/-- An outcome other than that stored blocks do not decode. -/
def Readable : Except ServiceError Result → Prop
  | .error (.unreadable _ _) => False
  | _ => True

/-- A refusal is passed on as it is. -/
theorem Readable.passed {cause : ServiceError}
    (readable : Readable (.error cause : Except ServiceError Result)) :
    Readable (.error cause : Except ServiceError Next) := by
  cases cause with
  | unreadable => exact readable.elim
  | notFound | forbidden | invalidBlocks | invalidRecipient => trivial
  | transport | store | crashed => trivial

end Outcomes

/-! ## Requests that only read -/

section Reading

variable {Stage : Type} {protocol : Protocol Stage} {stage : Stage}

/-- The answer to a look-up, as a record or the cause why there is none. -/
def lookedUp (id : DocumentId) :
    Except Store.Failure (Option DocumentRecord) →
      Except ServiceError DocumentRecord
  | .ok (some record) => .ok record
  | .ok none => .error (.notFound id)
  | .error failure => .error (.store failure)

theorem follows_stored {id : DocumentId}
    {ends : Stage → Except ServiceError DocumentRecord → Prop}
    (permitted : protocol.permits stage (.get id))
    (answered : ∀ reply, protocol.expects stage (.get id) reply →
      ends (protocol.advance stage (.get id) reply) (lookedUp id reply)) :
    (stored id).Follows protocol ends stage := by
  unfold stored
  apply Request.Follows.bind
  apply Request.follows_ask permitted
  · intro answer expected
    cases answer with
    | some record =>
        exact Request.follows_pure (answered (.ok (some record)) expected)
    | none => exact Request.follows_throw (answered (.ok none) expected)
  · intro failure expected
    exact answered (.error failure) expected

/-- A stage at which a program may read and deliver as it likes, and at which it
stays while it does. -/
structure Protocol.ReadsFreely (protocol : Protocol Stage) (stage : Stage) :
    Prop where
  looksUp : ∀ id, protocol.permits stage (.get id)
  lists : ∀ requester, protocol.permits stage (.list requester)
  afterLookUp : ∀ id reply, protocol.advance stage (.get id) reply = stage
  afterListing : ∀ requester reply,
    protocol.advance stage (.list requester) reply = stage
  delivers : protocol.delivers stage

theorem follows_fetch {id : DocumentId} {requester : UserId}
    {ends : Stage → Except ServiceError Document → Prop}
    (free : protocol.ReadsFreely stage)
    (ended : ∀ outcome, Readable outcome → ends stage outcome)
    (unreadable : ∀ record cause, protocol.expects stage (.get id) (.ok (some record)) →
      Blocks.decode record.blocks = .error cause →
      ends stage (.error (.unreadable record.id cause))) :
    (fetch id requester).Follows protocol ends stage := by
  unfold fetch visible
  apply Request.Follows.bind
  apply Request.Follows.bind
  apply follows_stored (free.looksUp id)
  intro reply expected
  rw [free.afterLookUp]
  match reply with
  | .error failure => exact ended _ trivial
  | .ok none => exact ended _ trivial
  | .ok (some record) =>
      dsimp only [lookedUp]
      split
      · apply Request.follows_ofExcept
        · intro document _
          exact ended _ trivial
        · intro cause failed
          refine unreadable record cause expected ?_
          cases decoded : Blocks.decode record.blocks with
          | error other =>
              rw [Document.ofRecord, decoded] at failed
              cases failed
              rfl
          | ok blocks =>
              rw [Document.ofRecord, decoded] at failed
              cases failed
      · exact ended _ trivial

theorem follows_list {requester : UserId}
    {ends : Stage → Except ServiceError (List Summary) → Prop}
    (free : protocol.ReadsFreely stage)
    (ended : ∀ outcome, Readable outcome → ends stage outcome) :
    (list requester).Follows protocol ends stage := by
  apply Request.follows_ask (free.lists requester)
  · intro answer _
    rw [free.afterListing]
    exact ended _ trivial
  · intro failure _
    rw [free.afterListing]
    exact ended _ trivial

/-- Whether an operation only reads the store. -/
def Operation.Reads : Operation → Prop
  | .fetch _ | .list | .categories | .preview _ _ | .send _ _ _ => True
  | .create _ _ _ | .save _ _ _ _ | .delete _ => False

theorem Operation.follows_of_reads {service : Service} {requester : UserId}
    {operation : Operation} {ends : Stage → Except ServiceError Answer → Prop}
    (reads : operation.Reads) (free : protocol.ReadsFreely stage)
    (ended : ∀ outcome, Readable outcome → ends stage outcome)
    (unreadable : ∀ id record cause,
      protocol.expects stage (.get id) (.ok (some record)) →
      Blocks.decode record.blocks = .error cause →
      ends stage (.error (.unreadable record.id cause))) :
    (operation.program service requester).Follows protocol ends stage := by
  cases operation with
  | create | save | delete => exact reads.elim
  | fetch id =>
      apply Request.Follows.bind
      apply follows_fetch free
      · intro outcome readable
        cases outcome with
        | ok document => exact ended _ trivial
        | error cause => exact ended _ readable.passed
      · exact unreadable id
  | list =>
      apply Request.Follows.bind
      apply follows_list free
      intro outcome readable
      cases outcome with
      | ok summaries => exact ended _ trivial
      | error cause => exact ended _ readable.passed
  | categories =>
      apply Request.Follows.bind
      apply Request.Follows.bind
      apply follows_list free
      intro outcome readable
      cases outcome with
      | ok summaries => exact ended _ trivial
      | error cause => exact ended _ readable.passed
  | preview id context =>
      apply Request.Follows.bind
      apply Request.Follows.bind
      apply follows_fetch free
      · intro outcome readable
        cases outcome with
        | ok document => exact ended _ trivial
        | error cause => exact ended _ readable.passed
      · exact unreadable id
  | send id recipient context =>
      apply Request.Follows.bind
      apply Request.Follows.bind
      apply Request.follows_ofExcept
      · intro _ _
        apply Request.Follows.bind
        apply follows_fetch free
        · intro outcome readable
          cases outcome with
          | error cause => exact ended _ readable.passed
          | ok document =>
              apply Request.follows_hand free.delivers
              · intro delivery
                exact ended _ trivial
              · intro cause
                exact ended _ trivial
        · exact unreadable id
      · intro cause _
        exact ended _ trivial

end Reading

/-! ## Requests that write -/

section Writing

variable {Stage : Type} {protocol : Protocol Stage} {stage : Stage}

theorem follows_create {requester : UserId} {input : NewDocument}
    {fresh : DocumentId} {made : Time.Instant}
    {ends : Stage → Except ServiceError DocumentId → Prop}
    (ended : ∀ stage outcome, Readable outcome → ends stage outcome)
    (inserts : ∀ document, input.toDocument fresh requester made = .ok document →
      protocol.permits stage (.insert document)) :
    (create requester input fresh made).Follows protocol ends stage := by
  apply Request.Follows.bind
  apply Request.follows_ofExcept
  · intro document accepted
    apply Request.follows_ask (inserts document accepted)
    · intro answer _
      exact ended _ _ trivial
    · intro failure _
      exact ended _ _ trivial
  · intro cause _
    exact ended _ _ trivial

/-- The document that a user's save adds next to a record of another user. -/
def forkWith (record : DocumentRecord) (id : DocumentId) (update : FieldUpdate)
    (blocks : List Block) (requester : UserId) (fresh : DocumentId)
    (made : Time.Instant) : Document :=
  { update with visibility := none }.applyTo
    (forkOf record id blocks requester fresh made)

/-- The blocks that a fork starts from: those of the update, or those of the
record. -/
def blocksOver (record : DocumentRecord) (update : FieldUpdate) :
    Except BlocksError (List Block) :=
  match update.blocks with
  | some blocks => .ok blocks
  | none => Blocks.decode record.blocks

theorem forkBlocks_eq (id : DocumentId) (record : DocumentRecord)
    (update : FieldUpdate) :
    forkBlocks id record update =
      Request.ofExcept (.unreadable id) (blocksOver record update) := by
  unfold forkBlocks blocksOver
  cases update.blocks <;> rfl

section BlocksOver

variable {record : DocumentRecord} {update : FieldUpdate} {blocks : List Block}

theorem blocksOver_cases (chosen : blocksOver record update = .ok blocks) :
    update.blocks = some blocks ∨
      update.blocks = none ∧ Blocks.decode record.blocks = .ok blocks := by
  unfold blocksOver at chosen
  cases given : update.blocks with
  | some own =>
      rw [given] at chosen
      cases chosen
      exact .inl rfl
  | none =>
      rw [given] at chosen
      exact .inr ⟨rfl, chosen⟩

/-- A fork has the blocks that it starts from. -/
theorem blocks_forkWith (chosen : blocksOver record update = .ok blocks)
    (id fresh : DocumentId) (requester : UserId) (made : Time.Instant) :
    (forkWith record id update blocks requester fresh made).blocks = blocks := by
  rcases blocksOver_cases chosen with given | ⟨given, _⟩
  · simp [forkWith, FieldUpdate.applyTo, given]
  · simp [forkWith, FieldUpdate.applyTo, forkOf, given]

end BlocksOver

/-- A save reads one record, and then writes at most once: in place when the
requester owns what was read, and as a fork when it was public. -/
theorem follows_save {id : DocumentId} {requester : UserId}
    {patch : DocumentPatch} {fresh : DocumentId} {made : Time.Instant}
    {ends : Stage → Except ServiceError SaveOutcome → Prop}
    (ended : ∀ stage outcome, Readable outcome → ends stage outcome)
    (unreadable : ∀ record update cause,
      protocol.expects stage (.get id) (.ok (some record)) →
      blocksOver record update = .error cause →
      ends (protocol.advance stage (.get id) (.ok (some record)))
        (.error (.unreadable id cause)))
    (reads : protocol.permits stage (.get id))
    (updates : ∀ record update,
      protocol.expects stage (.get id) (.ok (some record)) →
      patch.toUpdate = .ok update → record.owner = requester →
      protocol.permits (protocol.advance stage (.get id) (.ok (some record)))
        (.updateOwned id requester update))
    (forks : ∀ record update blocks,
      protocol.expects stage (.get id) (.ok (some record)) →
      patch.toUpdate = .ok update → record.owner ≠ requester →
      record.visibility = .everyone → blocksOver record update = .ok blocks →
      protocol.permits (protocol.advance stage (.get id) (.ok (some record)))
        (.insert (forkWith record id update blocks requester fresh made))) :
    (save id requester patch fresh made).Follows protocol ends stage := by
  unfold save
  apply Request.Follows.bind
  apply follows_stored reads
  intro reply expected
  match reply with
  | .error _ => exact ended _ _ trivial
  | .ok none => exact ended _ _ trivial
  | .ok (some record) =>
      apply Request.Follows.bind
      apply Request.follows_ofExcept
      · intro update accepted
        dsimp only
        split
        · rename_i owned
          apply Request.Follows.bind
          apply Request.follows_ask (updates record update expected accepted owned)
          · intro affected _
            dsimp only
            split
            · exact ended _ _ trivial
            · exact ended _ _ trivial
          · intro failure _
            exact ended _ _ trivial
        · rename_i foreign
          split
          · exact ended _ _ trivial
          · rename_i notPrivate
            apply Request.Follows.bind
            rw [forkBlocks_eq]
            apply Request.follows_ofExcept
            · intro blocks found
              have isPublic := Visibility.everyone_of_ne notPrivate
              apply Request.Follows.bind
              apply Request.follows_ask
                (forks record update blocks expected accepted foreign isPublic found)
              · intro added _
                exact ended _ _ trivial
              · intro failure _
                exact ended _ _ trivial
            · intro cause failed
              exact unreadable record update cause expected failed
      · intro cause _
        exact ended _ _ trivial

/-- What a deletion that removed nothing reports, from the look-up that says
why. -/
def refusedDeletion (id : DocumentId) :
    Except Store.Failure (Option DocumentRecord) → ServiceError
  | .ok (some _) => .forbidden id
  | .ok none => .notFound id
  | .error failure => .store failure

/-- A deletion tries to remove the document, and looks it up when nothing was
removed. -/
theorem follows_delete {id : DocumentId} {requester : UserId}
    {ends : Stage → Except ServiceError Unit → Prop}
    (removes : protocol.permits stage (.deleteOwned id requester))
    (failed : ∀ failure,
      ends (protocol.advance stage (.deleteOwned id requester) (.error failure))
        (.error (.store failure)))
    (removed : ∀ affected : Nat, affected = 1 →
      ends (protocol.advance stage (.deleteOwned id requester) (.ok affected))
        (.ok ()))
    (kept : ∀ affected : Nat, affected ≠ 1 →
      let next := protocol.advance stage (.deleteOwned id requester) (.ok affected)
      protocol.permits next (.get id) ∧
        ∀ reply, ends (protocol.advance next (.get id) reply)
          (.error (refusedDeletion id reply))) :
    (delete id requester).Follows protocol ends stage := by
  unfold delete
  apply Request.Follows.bind
  apply Request.follows_ask removes
  · intro affected _
    dsimp only
    split
    · rename_i one
      exact Request.follows_pure (removed affected one)
    · rename_i other
      obtain ⟨looks, looked⟩ := kept affected other
      apply Request.Follows.bind
      apply Request.follows_ask looks
      · intro answer _
        cases answer with
        | some record => exact Request.follows_throw (looked (.ok (some record)))
        | none => exact Request.follows_throw (looked (.ok none))
      · intro failure _
        exact looked (.error failure)
  · intro failure _
    exact failed failure

end Writing

end BlockMail.Service
