import BlockMail.Proofs.Service.Reading
import BlockMail.Proofs.Store.Shown

/-!
# What users are told of the templates

The listing and the categories against the templates that a user can fetch. All of them
go by the same rule of who may see a template, each in a form of its own.
-/

set_option autoImplicit false

namespace BlockMail

theorem Document.isVisibleTo_of_record {record : DocumentRecord} {document : Document}
    (decoded : ofRecord record = .ok document) (requester : UserId) :
    document.isVisibleTo requester = record.isVisibleTo requester := by
  obtain ⟨blocks, _, made⟩ := exists_of_bind decoded
  cases made
  rfl

namespace Service

open Store

theorem mem_distinctSorted {texts : List String} {text : String} :
    text ∈ distinctSorted texts ↔ text ∈ texts := by
  unfold distinctSorted
  rw [ByKey.mem_keys_ofList, List.map_map]
  simp

theorem pairwise_distinctSorted (texts : List String) :
    (distinctSorted texts).Pairwise (· < ·) := by
  unfold distinctSorted
  rw [List.pairwise_map]
  exact (ByKey.ofList (texts.map fun text => (text, ()))).ascending

section Runs

variable (store : Store) (transport : Mail.MemoryTransport) (now : Time.Instant)
  (requester : UserId)

theorem run_list :
    (World.ofStore store transport).run now (list requester).run =
      (.ofStore store transport, (store.list requester).mapError .store) := by
  unfold list
  rw [World.run_ask]
  simp only [Store.perform]
  cases store.list requester <;> rfl

theorem run_categories :
    (World.ofStore store transport).run now (categories requester).run =
      (.ofStore store transport, ((store.list requester).mapError .store).map fun summaries =>
        distinctSorted ((summaries.map Summary.category).filter fun category =>
          !Text.allBlank category)) := by
  unfold categories
  rw [World.run_bind, run_list]
  cases store.list requester <;> rfl

end Runs

/-- What a listing and the categories tell a user in a world, against what the user can
fetch there. -/
structure Overview (world : World) (now : Time.Instant) (requester : UserId)
    (summaries : List Summary) (names : List String) : Prop where
  once : (summaries.map Summary.id).Nodup
  /-- A template is listed unless there is none, the user may not see it, or its row has a
  time with a sign. -/
  shown : ∀ id, id ∈ summaries.map Summary.id ↔
    (world.run now (fetch id requester).run).2 ≠ .error (.notFound id) ∧
      (world.run now (fetch id requester).run).2 ≠ .error (.forbidden id) ∧
      (world.run now (fetch id requester).run).2 ≠ .error (.store (signedTime 9))
  agrees : ∀ summary ∈ summaries,
    ∃ record, world.store.get? summary.id = .ok (some record) ∧ summary = record.summary
  newestFirst : summaries.Pairwise fun first second =>
    first.updatedAt.notBefore second.updatedAt = true
  verdict : ∀ id record document, world.store.get? id = .ok (some record) →
    Document.ofRecord record = .ok document →
    (document.isVisibleTo requester = true ↔ id ∈ summaries.map Summary.id)
  ascending : names.Pairwise (· < ·)
  named : ∀ name, name ∈ names ↔
    Text.allBlank name = false ∧ ∃ summary ∈ summaries, summary.category = name

/-- Which templates can be fetched, as far as the three refusals go. -/
theorem fetched_refused {store : Store} (obtainable : store.Obtainable) (id : DocumentId)
    (requester : UserId) :
    (fetched store id requester ≠ .error (.notFound id) ∧
        fetched store id requester ≠ .error (.forbidden id) ∧
        fetched store id requester ≠ .error (.store (signedTime 9))) ↔
      ∃ record, store.get? id = .ok (some record) ∧ record.isVisibleTo requester = true := by
  unfold fetched
  cases found : store.get? id with
  | error failure =>
      rw [obtainable.damage?_eq (get?_eq_error.1 found)]
      simp [lookedUp]
  | ok kept =>
      cases kept with
      | none => simp [lookedUp]
      | some record =>
          by_cases visible : record.isVisibleTo requester = true
          · cases decoded : Document.ofRecord record <;> simp [lookedUp, visible, decoded]
          · simp [lookedUp, visible]

theorem overview_of_listing {store : Store} (obtainable : store.Obtainable)
    (transport : Mail.MemoryTransport) (now : Time.Instant) {requester : UserId}
    {summaries : List Summary} (listing : Listing store requester summaries) :
    Overview (.ofStore store transport) now requester summaries
      (distinctSorted ((summaries.map Summary.category).filter fun category =>
        !Text.allBlank category)) := by
  have ids (id : DocumentId) : id ∈ summaries.map Summary.id ↔
      ∃ record, store.get? id = .ok (some record) ∧ record.isVisibleTo requester = true :=
    listing.mem_ids obtainable.proper
  constructor
  case once => exact listing.once
  case shown =>
    intro id
    rw [run_fetch, ids, ← fetched_refused obtainable]
  case agrees =>
    intro summary member
    obtain ⟨record, found, _, same⟩ := (listing.mem_iff summary).1 member
    exact ⟨record, found, same⟩
  case newestFirst => exact listing.newestFirst
  case verdict =>
    intro id record document found decoded
    rw [Document.isVisibleTo_of_record decoded, ids]
    constructor
    · intro visible
      exact ⟨record, found, visible⟩
    · rintro ⟨other, again, visible⟩
      have same : Except.ok (some record) = Except.ok (some other) := found.symm.trans again
      cases same
      exact visible
  case ascending => exact pairwise_distinctSorted _
  case named =>
    intro name
    rw [mem_distinctSorted, List.mem_filter, List.mem_map, Bool.not_eq_true', and_comm]

/-- In every state of a store, users are listed what they can fetch and the categories of
it, unless a table has a row for them with a time that it does not read. -/
theorem overview {store : Store} (obtainable : store.Obtainable)
    (transport : Mail.MemoryTransport) (now : Time.Instant) (requester : UserId) :
    let world := World.ofStore store transport
    (store.TimelyFor requester → ∃ summaries names,
      world.run now (list requester).run = (world, .ok summaries) ∧
        world.run now (categories requester).run = (world, .ok names) ∧
        Overview world now requester summaries names) ∧
    (¬store.TimelyFor requester →
      world.run now (list requester).run = (world, .error (.store (signedTime 7))) ∧
        world.run now (categories requester).run =
          (world, .error (.store (signedTime 7)))) := by
  intro world
  subst world
  rw [run_list, run_categories]
  constructor
  · intro timely
    obtain ⟨summaries, listed, listing⟩ := obtainable.list_of_timely timely
    rw [listed]
    exact ⟨summaries, _, rfl, rfl, overview_of_listing obtainable transport now listing⟩
  · intro late
    rw [obtainable.list_of_late late]
    exact ⟨rfl, rfl⟩

/-- A table with a mail that everybody may read and a mail of another user. -/
theorem overview_of_public_mail :
    let noon : Time.Instant := ⟨⟨2024, 5, 1, by decide⟩, 720, 0, 1000, by decide⟩
    let welcome : Document := ⟨⟨"d1"⟩, ⟨"ada"⟩, "Welcome", "News", "Hi", none, .everyone, none,
      [⟨"b1", .spacer, .empty⟩], noon⟩
    let bill : Document := ⟨⟨"d2"⟩, ⟨"ada"⟩, "Bill", "Shop", "Due", none, .ownerOnly, none, [],
      noon⟩
    let store := (empty .table).after
      [(noon, .made (.insert welcome)), (noon, .made (.insert bill))]
    let world := World.ofStore store .empty
    store.Obtainable ∧ store.TimelyFor ⟨"bob"⟩ ∧
      ∃ summaries names, world.run noon (list ⟨"bob"⟩).run = (world, .ok summaries) ∧
        world.run noon (categories ⟨"bob"⟩).run = (world, .ok names) ∧
        Overview world noon ⟨"bob"⟩ summaries names := by
  intro noon welcome bill store world
  have obtainable : store.Obtainable :=
    .access noon (.made (.insert bill))
      (.access noon (.made (.insert welcome)) (.empty .table))
  have timely : store.TimelyFor ⟨"bob"⟩ := by
    intro row there _
    have written : row ∈ [Row.ofDocument welcome, Row.ofDocument bill] := there
    simp only [List.mem_cons, List.not_mem_nil, or_false] at written
    rcases written with rfl | rfl <;> exact ⟨noon, rfl, by decide⟩
  exact ⟨obtainable, timely, (overview obtainable .empty noon ⟨"bob"⟩).1 timely⟩

/-- Everybody may fetch a mail of the year 10000 as far as its visibility goes, but nobody is
listed anything. -/
theorem unlisted_in_year_10000 :
    let noon : Time.Instant := ⟨⟨2024, 5, 1, by decide⟩, 720, 0, 0, by decide⟩
    let late : Time.Instant := ⟨⟨10000, 1, 1, by decide⟩, 59, 59, 0, by decide⟩
    let welcome : Document := ⟨⟨"t1"⟩, ⟨"ada"⟩, "Welcome", "News", "Hi", none, .everyone, none,
      [], late⟩
    let store := (empty .table).after [(noon, .made (.insert welcome))]
    let world := World.ofStore store .empty
    store.Obtainable ∧
      (world.run noon (fetch ⟨"t1"⟩ ⟨"bob"⟩).run).2 = .error (.store (signedTime 9)) ∧
      (world.run noon (list ⟨"bob"⟩).run).2 = .error (.store (signedTime 7)) ∧
      (world.run noon (categories ⟨"bob"⟩).run).2 = .error (.store (signedTime 7)) := by
  intro noon late welcome store world
  have signed : ¬late.FourDigits := by decide
  have held : catalogue [(noon, .made (.insert welcome))] ⟨"t1"⟩ = some welcome := rfl
  have refused : store.list ⟨"bob"⟩ = .error (signedTime 7) := list_of_signed held rfl signed
  refine ⟨.access noon (.made (.insert welcome)) (.empty .table), ?_, ?_, ?_⟩
  · rw [run_fetch, fetched_of_damaged (damage?_of_signed held signed)]
  · rw [run_list, refused]
    rfl
  · rw [run_categories, refused]
    rfl

end Service

end BlockMail
