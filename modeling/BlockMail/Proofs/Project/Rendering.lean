import BlockMail.Proofs.Project.Compilation
import BlockMail.Proofs.Service.Delivery
import BlockMail.Proofs.Store.RoundTrip
import BlockMail.Proofs.Template.DocumentCodec
import BlockMail.Proofs.Template.Payload

/-!
# One mail in two ways

The command line reads the blocks of a template from its file and compiles them. The
service decodes them when a template is created, keeps them as JSON, decodes them again
for whoever asks, and renders them. Both come to the same mail.
-/

set_option autoImplicit false

namespace BlockMail

/-! ## What the service makes of a template -/

namespace Service

variable {service : Service} {store : Store} {records : Store.MemoryStore} {id fresh : DocumentId}
  {requester owner : UserId} {document : Document} {override : Option Context}

/-- The page of a template is `html` for a user, and the mail that the user sends from it
is `html` and `text`, at any time, to any address and with any transport. -/
structure Renders (service : Service) (store : Store) (id : DocumentId) (requester : UserId)
    (override : Option Context) (html text : String) : Prop where
  preview : ∀ {Kept : Type} (transport : Mail.Transport Kept) (now : Time.Instant) (kept : Kept),
    (service.preview id requester override).run.through transport now store kept =
      ⟨store, kept, [], .ok html⟩
  send : ∀ {Kept : Type} (transport : Mail.Transport Kept) (now : Time.Instant) (kept : Kept)
    (recipient : String), Mail.isAddress recipient = true →
      ∃ mail : Mail.OutgoingMail, mail.html = html ∧ mail.text = text ∧
        (service.send id requester recipient override).run.through transport now store kept =
          ⟨store, (transport kept mail).1, [mail], (transport kept mail).2.mapError .transport⟩

theorem renders_of_fetched (visible : fetched store id requester = .ok document)
    (service : Service) (override : Option Context) :
    service.Renders store id requester override
      (Html.page document.blocks (service.merged override) .default)
      (Html.plainPage document.blocks (service.merged override)) := by
  constructor
  · intro Kept transport now kept
    rw [through_preview, visible]
    rfl
  · intro Kept transport now kept recipient address
    refine ⟨service.mailOf document recipient override, rfl, rfl, ?_⟩
    rw [through_send transport now store kept service visible, if_pos address]

theorem fetched_of_get? (found : records.get? id = some document.toRecord)
    (visible : document.isVisibleTo requester = true) :
    fetched (.memory records) id requester = .ok document := by
  have looked : Store.get? (.memory records) id = .ok (some document.toRecord) :=
    congrArg Except.ok found
  have seen : document.toRecord.isVisibleTo requester = true := visible
  simp only [fetched, looked, lookedUp, seen, if_true, document.ofRecord_toRecord]

/-- A document that is made of a creation is stored under its new identifier. -/
theorem through_create {Kept : Type} {input : NewDocument} {now : Time.Instant}
    (absent : records.get? fresh = none)
    (made : input.toDocument fresh owner now = .ok document)
    (transport : Mail.Transport Kept) (kept : Kept) :
    ∃ after, (create owner input fresh now).run.through transport now (.memory records) kept =
        ⟨.memory after, kept, [], .ok fresh⟩ ∧
      after.get? fresh = some document.toRecord := by
  obtain ⟨-, named, -, -⟩ := NewDocument.blocks_of_toDocument made
  rw [← named] at absent
  obtain ⟨after, inserted, found⟩ := Store.MemoryStore.get?_of_insert absent
  have stored : (Store.memory records).perform now (.insert document) =
      (.memory after, .ok document.id) := by
    simp only [Store.perform, Store.insert, inserted, Except.map]
  refine ⟨after, ?_, named ▸ found⟩
  unfold create
  rw [through_bind, made]
  change ((Request.ask (.insert document)).run.through transport now (.memory records)
    kept).preceded [] = _
  simp only [Request.ask, ExceptT.run, ExceptT.mk, Program.through, stored, named]
  rfl

end Service

/-! ## Both ways -/

namespace Project

theorem decodeValid_of_readBlocks {content : String} {value : Json} {blocks : List Block}
    (parsed : Json.parse? content = some value) (accepted : readBlocks content = .ok blocks) :
    Blocks.decodeValid (payloadOf value) = .ok blocks := by
  simp only [readBlocks, parsed] at accepted
  cases read : Blocks.decodeValid (payloadOf value) with
  | error cause => simp [read] at accepted
  | ok decoded => simpa [read] using accepted

/-- A template that is compiled on the command line, and one that is created through the
service with the blocks of its file, come to the same page and the same text: for every
context that a configuration has as its default, for every other that lies over it, and
in every year. -/
theorem compiled_as_previewed {content : String} {value : Json} {blocks : List Block}
    (parsed : Json.parse? content = some value) (accepted : readBlocks content = .ok blocks)
    (config : Config) (year : Int) (override : Option Context) :
    let context := (projectContext config year).overlay (override.getD .empty)
    let html := Html.page blocks context .default
    let text := Html.plainPage blocks context
    (∀ (machine : Machine) (directory : Path) (file : Option String),
      GivenContext machine.tree directory file override →
        InPlace.on (loadContext directory config year file) machine = (.ok context, machine)) ∧
    (∀ (machine : Machine) (options : CompileOptions) (outputDirectory : Path) (source : Source),
      machine.tree.read source.path = .ok content →
        Compiles options context outputDirectory source machine html text) ∧
    ∀ {Kept : Type} (transport : Mail.Transport Kept) (kept : Kept) (sender : String)
      (records : Store.MemoryStore) (owner : UserId) (input : NewDocument) (fresh : DocumentId)
      (now : Time.Instant),
      input.blocks = some (payloadOf value) → records.get? fresh = none →
        ∃ after,
          (Service.create owner input fresh now).run.through transport now (.memory records)
            kept = ⟨.memory after, kept, [], .ok fresh⟩ ∧
          ∀ requester, requester = owner ∨ input.visibility = some .everyone →
            (Service.ofSender sender year config.defaultContext).Renders (.memory after) fresh
              requester override html text := by
  intro context html text
  refine ⟨fun _ _ _ => on_loadContext, fun _ options outputDirectory _ read =>
    compiles read accepted options context outputDirectory, ?_⟩
  intro Kept transport kept sender records owner input fresh now carried absent
  have made : input.toDocument fresh owner now = .ok (input.document fresh owner now blocks) := by
    rw [input.toDocument_of_blocks carried, decodeValid_of_readBlocks parsed accepted]
    rfl
  obtain ⟨after, created, found⟩ := Service.through_create absent made transport kept
  refine ⟨after, created, fun requester reader => ?_⟩
  have visible : (input.document fresh owner now blocks).isVisibleTo requester = true := by
    obtain rfl | shared := reader
    · simp [Document.isVisibleTo, NewDocument.document]
    · simp [Document.isVisibleTo, NewDocument.document, shared]
  exact Service.renders_of_fetched (Service.fetched_of_get? found visible) _ override

/-- A footer that greets, with a name from a file over the samples. -/
theorem compiled_as_previewed_for_sam :
    let payload : Json := .array [.object [("id", .string "f"), ("type", .string "footer"),
      ("data", .object [("text", .string "Bye \x7b\x7bname\x7d\x7d")])]]
    let template : Json := .object [("name", .string "Farewell"), ("sections", payload)]
    let content := template.compact
    let farewell : Block := ⟨"f", .footer "Bye \x7b\x7bname\x7d\x7d", .empty⟩
    let values := "\x7b\"name\":\"Sam\"\x7d"
    let machine : Machine :=
      .ofTree ⟨[(["bye.json"], .file content), (["sam.json"], .file values)]⟩
    let source : Source := ⟨⟨"bye.json"⟩, ⟨"bye.json"⟩⟩
    let options : CompileOptions := ⟨none, false, none, some "sam.json", true, false⟩
    let noon : Time.Instant := ⟨⟨2024, 5, 1, by decide⟩, 720, 0, 0, by decide⟩
    let creation : NewDocument := ⟨none, none, none, none, some payload, none⟩
    let store := ((Service.create ⟨"ada"⟩ creation ⟨"d1"⟩ noon).run.through
      Mail.MemoryTransport.send noon (.memory .empty) .empty).store
    let service := Service.ofSender "post@example.com" 2024 .empty
    Json.parse? content = some template ∧ readBlocks content = .ok [farewell] ∧
    ∃ context extra html text after mail,
      InPlace.on (loadContext ⟨"."⟩ .standard 2024 options.contextFile) machine =
        (.ok context, machine) ∧
      compiled options context ⟨"."⟩ source machine = (.ok "./bye.html", after) ∧
      after.tree.read ⟨"./bye.html"⟩ = .ok html ∧ after.tree.read ⟨"./bye.txt"⟩ = .ok text ∧
      ((service.preview ⟨"d1"⟩ ⟨"ada"⟩ (some extra)).run.through Mail.MemoryTransport.send noon
        store .empty).result = .ok html ∧
      ((service.send ⟨"d1"⟩ ⟨"ada"⟩ "sam@example.com" (some extra)).run.through
        Mail.MemoryTransport.send noon store .empty).mails = [mail] ∧
      mail.html = html ∧ mail.text = text := by
  intro payload template content farewell values machine source options noon creation store
    service
  have regular : template.Regular 4 :=
    ⟨by simp [template, payload, Json.Distinct, Json.DistinctItems, Json.DistinctMembers],
      by decide⟩
  have parsed : Json.parse? content = some template := Json.parse?_compact regular (by decide)
  have accepted : readBlocks content = .ok [farewell] := by
    simp only [readBlocks, parsed]
    rfl
  have held : (Decode.fromWholeText Context.decode values).toOption.isSome = true := by
    decide +kernel
  obtain ⟨extra, decoded⟩ : ∃ extra, Decode.fromWholeText Context.decode values = .ok extra := by
    cases read : Decode.fromWholeText Context.decode values with
    | ok extra => exact ⟨extra, rfl⟩
    | error cause =>
        rw [read] at held
        cases held
  have given : GivenContext machine.tree ⟨"."⟩ options.contextFile (some extra) :=
    .file (by decide +kernel) decoded
  have room : options.HasRoom (outputPath ⟨"."⟩ source) machine.tree := by
    refine ⟨?_, ⟨["bye.html"], ?_, ?_⟩, fun _ => ⟨["bye.txt"], ?_, ?_⟩⟩
    · intro above found
      obtain rfl : above = ⟨"."⟩ := by
        have dot : (outputPath ⟨"."⟩ source).parent? = some ⟨"."⟩ := by decide +kernel
        exact Option.some.inj (found.symm.trans dot)
      exact .inr (by decide +kernel)
    · decide +kernel
    · decide +kernel
    · decide +kernel
    · decide +kernel
  have placed : outputPath ⟨"."⟩ source = ⟨"./bye.html"⟩ := by decide +kernel
  have beside : textPath ⟨"./bye.html"⟩ = ⟨"./bye.txt"⟩ := by decide +kernel
  obtain ⟨loads, compiles, creates⟩ :=
    compiled_as_previewed parsed accepted .standard 2024 (some extra)
  have here := compiles machine options ⟨"."⟩ source (by decide +kernel)
  obtain ⟨after, ended⟩ := here.succeeds rfl room
  obtain ⟨-, page, plain⟩ := here.written rfl _ _ ended
  rw [placed] at ended page plain
  rw [beside] at plain
  obtain ⟨kept, created, renders⟩ := creates Mail.MemoryTransport.send .empty "post@example.com"
    .empty ⟨"ada"⟩ creation ⟨"d1"⟩ noon rfl rfl
  have holds : store = .memory kept := congrArg Service.Ended.store created
  have rendered := renders ⟨"ada"⟩ (.inl rfl)
  rw [← holds] at rendered
  obtain ⟨mail, written, worded, sent⟩ :=
    rendered.send Mail.MemoryTransport.send noon .empty "sam@example.com" (by decide +kernel)
  have shown := rendered.preview Mail.MemoryTransport.send noon .empty
  exact ⟨parsed, accepted, _, extra, _, _, after, mail, loads machine ⟨"."⟩ options.contextFile given, ended,
    page rfl, plain rfl, congrArg Service.Ended.result shown,
    congrArg Service.Ended.mails sent, written, worded⟩

end Project

end BlockMail
