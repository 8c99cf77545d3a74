import Mathlib.Data.List.Infix
import BlockMail.Proofs.Store.Listing
import BlockMail.Proofs.Template.DocumentCodec

/-!
# One catalogue in both stores

What accesses make of a store, told by documents alone. Both kinds of stores keep to
it, each in its own form, so they answer alike as long as the form of a table loses
nothing: the texts of its blocks parse to the blocks, and the texts of its times are
in order.
-/

set_option autoImplicit false

namespace BlockMail

namespace Document

/-- The document with the fields of an update, at a new time. -/
def updated (document : Document) (update : FieldUpdate) (now : Time.Instant) : Document :=
  { update.applyTo document with updatedAt := now }

/-- The document with the time that a table keeps of it. -/
def truncated (document : Document) : Document :=
  { document with updatedAt := document.updatedAt.truncateMicros }

end Document

namespace Store

theorem Entry.updated_ofDocument (backend : Backend) (document : Document)
    (update : FieldUpdate) (now : Time.Instant) :
    (ofDocument backend document).updated update now =
      ofDocument backend (document.updated update now) := by
  obtain ⟨name, category, subject, description, blocks, visibility⟩ := update
  cases backend <;> cases blocks <;> cases visibility <;> rfl

/-! ## Accesses -/

/-- A call, or an update that does not ask whose document it is. -/
inductive Access where
  | made (call : Call)
  | forced (id : DocumentId) (update : FieldUpdate)

@[reducible] def Access.Reply : Access → Type
  | .made call => call.Reply
  | .forced _ _ => Nat

/-- The store after an access and its answer, the clock showing `now`. -/
def access (store : Store) (now : Time.Instant) :
    (access : Access) → Store × Except Failure access.Reply
  | .made call => store.perform now call
  | .forced id update => mapSecond Except.ok (store.update id update now)

/-- The store after accesses at their times. -/
def after (store : Store) (steps : List (Time.Instant × Access)) : Store :=
  steps.foldl (fun store step => (store.access step.1 step.2).1) store

@[simp] theorem backend_access (store : Store) (now : Time.Instant) (access : Access) :
    (store.access now access).1.backend = store.backend := by
  cases access with
  | made call => exact backend_perform store now call
  | forced id update => exact backend_update store id update now

/-! ## Documents under access -/

/-- What an access makes of the document under an identifier. -/
def Access.result (now : Time.Instant) (id : DocumentId) (kept : Option Document) :
    Access → Option Document
  | .made (.get _) | .made (.list _) => kept
  | .made (.insert document) =>
      if id = document.id then some (kept.getD document) else kept
  | .made (.updateOwned key owner update) =>
      if id = key then
        kept.map fun document =>
          if document.owner = owner then document.updated update now else document
      else kept
  | .made (.deleteOwned key owner) =>
      if id = key then kept.filter fun document => document.owner ≠ owner else kept
  | .forced key update =>
      if id = key then kept.map fun document => document.updated update now else kept

/-- The document under an identifier after accesses to an empty store. -/
def catalogue (steps : List (Time.Instant × Access)) (id : DocumentId) : Option Document :=
  steps.foldl (fun kept step => step.2.result step.1 id kept) none

theorem effect_ofDocument (call : Call) (backend : Backend) (now : Time.Instant)
    (id : DocumentId) (kept : Option Document) :
    call.effect backend now id (kept.map (Entry.ofDocument backend)) =
      ((Access.made call).result now id kept).map (Entry.ofDocument backend) := by
  cases call with
  | get | list => rfl
  | insert document =>
      simp only [Call.effect, Access.result]
      split
      · cases kept <;> rfl
      · rfl
  | updateOwned key owner update =>
      simp only [Call.effect, Access.result]
      split
      · cases kept with
        | none => rfl
        | some document =>
            by_cases owned : document.owner = owner <;>
              simp [owned, Entry.updated_ofDocument]
      · rfl
  | deleteOwned key owner =>
      simp only [Call.effect, Access.result]
      split
      · cases kept with
        | none => rfl
        | some document =>
            by_cases owned : document.owner = owner <;>
              simp [owned, Option.filter_some]
      · rfl

theorem entryAt?_access {store : Store} {id : DocumentId} {kept : Option Document}
    (here : store.entryAt? id = kept.map (Entry.ofDocument store.backend))
    (now : Time.Instant) (access : Access) :
    (store.access now access).1.entryAt? id =
      (access.result now id kept).map (Entry.ofDocument store.backend) := by
  cases access with
  | made call =>
      rw [Store.access, entryAt?_perform, here, effect_ofDocument]
  | forced key update =>
      simp only [Store.access, mapSecond, entryAt?_update, here, Access.result]
      split
      · cases kept with
        | none => rfl
        | some document => simp [Entry.updated_ofDocument]
      · rfl

/-- The fields that an access sets of a document that is there. -/
def Access.update? : Access → Option FieldUpdate
  | .made (.updateOwned _ _ update) | .forced _ update => some update
  | .made (.get _) | .made (.list _) | .made (.insert _) | .made (.deleteOwned _ _) => none

/-- A document after an access was there before, is the one that is inserted, or is one
that is updated. -/
theorem Access.result_cases {access : Access} {now : Time.Instant} {id : DocumentId}
    {kept : Option Document} {document : Document}
    (left : access.result now id kept = some document) :
    kept = some document ∨
      (access = .made (.insert document) ∧ id = document.id) ∨
      ∃ old update, kept = some old ∧ access.update? = some update ∧
        document = old.updated update now := by
  cases access with
  | made call =>
      cases call with
      | get | list => exact .inl left
      | insert added =>
          simp only [result] at left
          split at left
          · rename_i same
            cases kept with
            | none =>
                cases left
                exact .inr (.inl ⟨rfl, same⟩)
            | some old => exact .inl left
          · exact .inl left
      | updateOwned key owner update =>
          simp only [result] at left
          split at left
          · obtain ⟨old, rfl, rfl⟩ := Option.map_eq_some_iff.1 left
            split
            · exact .inr (.inr ⟨old, update, rfl, rfl, rfl⟩)
            · exact .inl rfl
          · exact .inl left
      | deleteOwned key owner =>
          simp only [result] at left
          split at left
          · exact .inl (Option.filter_eq_some_iff.1 left).1
          · exact .inl left
  | forced key update =>
      simp only [result] at left
      split at left
      · obtain ⟨old, rfl, rfl⟩ := Option.map_eq_some_iff.1 left
        exact .inr (.inr ⟨old, update, rfl, rfl, rfl⟩)
      · exact .inl left

/-- Every identifier has the entry of the document that the accesses lead to. -/
theorem entryAt?_after {store : Store} {id : DocumentId} {kept : Option Document}
    (here : store.entryAt? id = kept.map (Entry.ofDocument store.backend))
    (steps : List (Time.Instant × Access)) :
    (store.after steps).entryAt? id =
      (steps.foldl (fun kept step => step.2.result step.1 id kept) kept).map
        (Entry.ofDocument store.backend) := by
  induction steps generalizing store kept with
  | nil => exact here
  | cons first rest ih =>
      have there := entryAt?_access here first.1 first.2
      rw [← backend_access store first.1 first.2] at there ⊢
      exact ih there

theorem entryAt?_catalogue (backend : Backend) (steps : List (Time.Instant × Access))
    (id : DocumentId) :
    ((empty backend).after steps).entryAt? id =
      (catalogue steps id).map (Entry.ofDocument backend) := by
  have start : (empty backend).entryAt? id =
      (none : Option Document).map (Entry.ofDocument (empty backend).backend) :=
    entryAt?_empty backend id
  rw [entryAt?_after start, backend_empty]
  rfl

/-- What an access writes can be read back from a table: its blocks parse to what they
were, and its time, be it given or the clock's, is in a year of four digits. -/
def Access.Tabular (now : Time.Instant) : Access → Prop
  | .made (.insert document) =>
      Blocks.Reparses document.blocks ∧ document.updatedAt.FourDigits
  | .made (.updateOwned _ _ update) | .forced _ update =>
      (∀ blocks, update.blocks = some blocks → Blocks.Reparses blocks) ∧ now.FourDigits
  | .made (.get _) | .made (.list _) | .made (.deleteOwned _ _) => True

section Steps

variable {store : Store} {held : DocumentId → Option Document} {now : Time.Instant}

theorem tabular_updated {id : DocumentId} {document : Document} {update : FieldUpdate}
    (tabular : document.Tabular id)
    (reparses : ∀ blocks, update.blocks = some blocks → Blocks.Reparses blocks)
    (years : now.FourDigits) : (document.updated update now).Tabular id := by
  refine ⟨tabular.named, ?_, years⟩
  cases given : update.blocks with
  | none => simpa [Document.updated, FieldUpdate.applyTo, given] using tabular.reparses
  | some blocks => simpa [Document.updated, FieldUpdate.applyTo, given] using reparses blocks given

theorem Access.Tabular.ofUpdate {access : Access} (writes : access.Tabular now)
    {update : FieldUpdate} (given : access.update? = some update) :
    (∀ blocks, update.blocks = some blocks → Blocks.Reparses blocks) ∧ now.FourDigits := by
  cases access with
  | made call =>
      cases call with
      | get | list | insert | deleteOwned => cases given
      | updateOwned key owner fields =>
          cases given
          exact writes
  | forced key fields =>
      cases given
      exact writes

theorem Access.Tabular.result {access : Access} (writes : access.Tabular now)
    {id : DocumentId} {kept : Option Document}
    (tabular : ∀ document, kept = some document → document.Tabular id) {document : Document}
    (left : access.result now id kept = some document) : document.Tabular id := by
  rcases result_cases left with before | ⟨rfl, same⟩ | ⟨old, update, before, given, rfl⟩
  · exact tabular document before
  · exact ⟨same.symm, writes.1, writes.2⟩
  · obtain ⟨reparses, years⟩ := writes.ofUpdate given
    exact tabular_updated (tabular old before) reparses years

theorem Represents.access (represents : store.Represents held) {access : Access}
    (writes : access.Tabular now) :
    (store.access now access).1.Represents fun id => access.result now id (held id) := by
  constructor
  · intro id
    rw [backend_access]
    exact entryAt?_access (represents.entries id) now access
  · intro id document left
    exact writes.result (represents.tabular id) left

theorem Represents.after (represents : store.Represents held)
    {steps : List (Time.Instant × Access)} (writes : ∀ step ∈ steps, step.2.Tabular step.1) :
    (store.after steps).Represents fun id =>
      steps.foldl (fun kept step => step.2.result step.1 id kept) (held id) := by
  induction steps generalizing store held with
  | nil => exact represents
  | cons first rest ih =>
      apply ih (represents.access (writes first List.mem_cons_self))
      intro step member
      exact writes step (List.mem_cons_of_mem _ member)

/-- Either store keeps the documents that the accesses lead to. -/
theorem represents_catalogue (backend : Backend) {steps : List (Time.Instant × Access)}
    (writes : ∀ step ∈ steps, step.2.Tabular step.1) :
    ((empty backend).after steps).Represents (catalogue steps) := by
  apply Represents.after _ writes
  constructor
  · intro id
    rw [entryAt?_empty]
    rfl
  · intro id document held
    cases held

end Steps

/-! ## Answers -/

/-- No record on either side, or records of one document, as a table keeps it on the
right. -/
inductive SameRecord :
    Except Failure (Option DocumentRecord) → Except Failure (Option DocumentRecord) → Prop where
  | absent : SameRecord (.ok none) (.ok none)
  | present {left right : DocumentRecord} {document : Document} :
      Document.ofRecord left = .ok document →
      Document.ofRecord right = .ok document.truncated →
      SameRecord (.ok (some left)) (.ok (some right))

inductive SameCount : Except Failure Nat → Except Failure Nat → Prop where
  | affected (count : Nat) : SameCount (.ok count) (.ok count)

/-- The answers of a memory store and of a table that say the same, the times of the
table apart. -/
def Access.Agree :
    (access : Access) → Except Failure access.Reply → Except Failure access.Reply → Prop
  | .made (.get _), left, right => SameRecord left right
  | .made (.list _), left, right =>
      ∃ summaries : List Summary, left = .ok summaries ∧
        right = .ok (summaries.map Summary.truncated)
  | .made (.insert document), left, right =>
      left = .ok document.id ∧ right = .ok document.id ∨
        left = .error (.alreadyExists document.id) ∧ right = .error .notUnique
  | .made (.updateOwned _ _ _), left, right => SameCount left right
  | .made (.deleteOwned _ _), left, right => SameCount left right
  | .forced _ _, left, right => SameCount left right

section Answers

variable {records : MemoryStore} {rows : Table} {held : DocumentId → Option Document}

theorem Represents.sameRecord (left : (Store.memory records).Represents held)
    (right : (Store.table rows).Represents held) (id : DocumentId) :
    SameRecord ((Store.memory records).get? id) ((Store.table rows).get? id) := by
  rw [get?_eq, get?_eq, left.entries, right.entries]
  cases here : held id with
  | none => exact .absent
  | some document =>
      obtain ⟨_, reparses, years⟩ := right.tabular id document here
      have read := Row.record_ofDocument document years
      show SameRecord (.ok (some document.toRecord))
        ((Row.ofDocument document).record.map some)
      rw [read]
      refine .present document.ofRecord_toRecord ?_
      unfold Document.ofRecord
      rw [Blocks.decode_text reparses]
      rfl

theorem Represents.owns_eq {store : Store} (represents : store.Represents held)
    (owner : UserId) (id : DocumentId) :
    store.owns owner id = (held id).any fun document => document.owner = owner := by
  unfold owns
  rw [represents.entries]
  cases held id <;> simp

theorem Represents.isSome_eq {store : Store} (represents : store.Represents held)
    (id : DocumentId) : (store.entryAt? id).isSome = (held id).isSome := by
  rw [represents.entries, Option.isSome_map]

theorem Represents.perform_insert {store : Store} (represents : store.Represents held)
    (now : Time.Instant) (document : Document) :
    (store.perform now (.insert document)).2 =
      if (held document.id).isSome then .error (store.backend.taken document.id)
      else .ok document.id := by
  have same := represents.isSome_eq document.id
  cases present : store.entryAt? document.id with
  | none =>
      rw [present] at same
      rw [reply_insert_of_absent present now, ← same]
      rfl
  | some entry =>
      have occupied : store.entryAt? document.id ≠ none := by simp [present]
      have refused := insert_of_present occupied
      rw [present] at same
      simp only [perform, refused, ← same, Option.isSome_some, if_true]

theorem Represents.agree (left : (Store.memory records).Represents held)
    (right : (Store.table rows).Represents held)
    (distinct : (Store.memory records).DistinctTimes) (now : Time.Instant)
    (access : Access) :
    access.Agree ((Store.memory records).access now access).2
      ((Store.table rows).access now access).2 := by
  cases access with
  | made call =>
      cases call with
      | get id => exact left.sameRecord right id
      | list requester =>
          refine ⟨_, left.list_memory requester, ?_⟩
          rw [List.map_map]
          exact right.list_table left distinct requester
      | insert document =>
          simp only [Access.Agree, Store.access, left.perform_insert, right.perform_insert]
          cases (held document.id).isSome with
          | false => exact .inl ⟨rfl, rfl⟩
          | true => exact .inr ⟨rfl, rfl⟩
      | updateOwned id owner update =>
          simp only [Access.Agree, Store.access, reply_updateOwned, left.owns_eq,
            right.owns_eq]
          exact .affected _
      | deleteOwned id owner =>
          simp only [Access.Agree, Store.access, reply_deleteOwned, left.owns_eq,
            right.owns_eq]
          exact .affected _
  | forced id update =>
      simp only [Access.Agree, Store.access, mapSecond, count_update, left.isSome_eq,
        right.isSome_eq]
      exact .affected _

end Answers

theorem exists_memory {store : Store} (kind : store.backend = .memory) :
    ∃ records, store = .memory records := by
  cases store with
  | memory records => exact ⟨records, rfl⟩
  | table rows => cases kind

theorem exists_table {store : Store} (kind : store.backend = .table) :
    ∃ rows, store = .table rows := by
  cases store with
  | memory records => cases kind
  | table rows => exact ⟨rows, rfl⟩

theorem backend_after (store : Store) (steps : List (Time.Instant × Access)) :
    (store.after steps).backend = store.backend := by
  induction steps generalizing store with
  | nil => rfl
  | cons first rest ih => exact (ih _).trans (backend_access store first.1 first.2)

/-- Accesses to an empty memory store and to an empty table are answered alike, and
leave records of the same documents, whenever the documents in memory have different
times down to the microsecond. -/
theorem interchangeable (steps : List (Time.Instant × Access))
    (writes : ∀ step ∈ steps, step.2.Tabular step.1)
    (distinct : ∀ earlier, earlier <+: steps →
      ((empty .memory).after earlier).DistinctTimes) :
    (∀ earlier step later, steps = earlier ++ step :: later →
      step.2.Agree (((empty .memory).after earlier).access step.1 step.2).2
        (((empty .table).after earlier).access step.1 step.2).2) ∧
    ∀ id, SameRecord (((empty .memory).after steps).get? id)
      (((empty .table).after steps).get? id) := by
  have reached (earlier : List (Time.Instant × Access))
      (prior : ∀ step ∈ earlier, step.2.Tabular step.1) :
      ∃ records rows, (empty .memory).after earlier = .memory records ∧
        (empty .table).after earlier = .table rows ∧
        (Store.memory records).Represents (catalogue earlier) ∧
        (Store.table rows).Represents (catalogue earlier) := by
    have left := represents_catalogue .memory prior
    have right := represents_catalogue .table prior
    obtain ⟨records, inMemory⟩ := exists_memory (backend_after (empty .memory) earlier)
    obtain ⟨rows, inTable⟩ := exists_table (backend_after (empty .table) earlier)
    exact ⟨records, rows, inMemory, inTable, inMemory ▸ left, inTable ▸ right⟩
  constructor
  · rintro earlier step later rfl
    obtain ⟨records, rows, inMemory, inTable, left, right⟩ := reached earlier
      fun step member => writes step (List.mem_append_left _ member)
    have apart := distinct earlier (List.prefix_append _ _)
    rw [inMemory] at apart ⊢
    rw [inTable]
    exact left.agree right apart step.1 step.2
  · intro id
    obtain ⟨records, rows, inMemory, inTable, left, right⟩ := reached steps writes
    rw [inMemory, inTable]
    exact left.sameRecord right id

/-- Two documents of one second, one of them inserted twice and then renamed. -/
theorem interchangeable_once_renamed :
    let noon : Time.Instant := ⟨⟨2024, 5, 1, by decide⟩, 720, 0, 1000, by decide⟩
    let later : Time.Instant := ⟨⟨2024, 5, 1, by decide⟩, 720, 0, 2001, by decide⟩
    let welcome : Document := ⟨⟨"d1"⟩, ⟨"ada"⟩, "Welcome", "News", "Hi", none, .everyone, none,
      [⟨"b1", .spacer, .empty⟩], noon⟩
    let bill : Document := ⟨⟨"d2"⟩, ⟨"bob"⟩, "Bill", "Shop", "Due", none, .ownerOnly, none, [],
      later⟩
    let rename : FieldUpdate := ⟨some "May", none, none, some none, none, none⟩
    let steps : List (Time.Instant × Access) :=
      [(noon, .made (.insert welcome)), (noon, .made (.insert bill)),
        (noon, .made (.insert welcome)), (noon, .made (.updateOwned ⟨"d1"⟩ ⟨"ada"⟩ rename)),
        (noon, .made (.list ⟨"bob"⟩))]
    ∃ listed : List Summary,
      (((empty .memory).after (steps.take 4)).list ⟨"bob"⟩) = .ok listed ∧
      (((empty .table).after (steps.take 4)).list ⟨"bob"⟩) =
        .ok (listed.map Summary.truncated) := by
  intro noon later welcome bill rename steps
  have reparses : Blocks.Reparses welcome.blocks ∧ Blocks.Reparses bill.blocks :=
    ⟨Blocks.reparses_of_exact ((Blocks.validate_iff _).1 (by decide)) (by decide),
      Blocks.reparses_of_exact ((Blocks.validate_iff _).1 (by decide)) (by decide)⟩
  have writes : ∀ step ∈ steps, step.2.Tabular step.1 := by
    intro step member
    simp only [steps, List.mem_cons, List.not_mem_nil, or_false] at member
    rcases member with rfl | rfl | rfl | rfl | rfl
    · exact ⟨reparses.1, by decide⟩
    · exact ⟨reparses.2, by decide⟩
    · exact ⟨reparses.1, by decide⟩
    · refine ⟨?_, by decide⟩
      rintro _ ⟨⟩
    · trivial
  have distinct : ∀ earlier ∈ steps.inits, ((empty .memory).after earlier).DistinctTimes := by
    decide +kernel
  exact (interchangeable steps writes fun earlier before =>
    distinct earlier ((List.mem_inits earlier steps).2 before)).1 (steps.take 4) _ [] rfl

end Store

end BlockMail
