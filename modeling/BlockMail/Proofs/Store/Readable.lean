import BlockMail.Proofs.Store.Catalogue

/-!
# Rows that are read back

A table takes documents of any year, but writes the time of a year outside of 0 to 9999
with a sign, and reads no time with a sign. Whatever else it writes it reads, so the time
alone decides whether a row is read back. A row that is not fails every listing it is in.
-/

set_option autoImplicit false

namespace BlockMail

/-- The record that a table gives back for a document. -/
def Document.tabled (document : Document) : DocumentRecord :=
  { document with
    blocks := .string (Store.Row.blocksText document.blocks)
    updatedAt := document.updatedAt.truncateMicros }

namespace Store

/-- What a selection with the time in a given column makes of a time with a sign. -/
def signedTime (column : Nat) : Failure := .unreadable column (.timestamp .invalid)

/-- The columns that are parsed hold a visibility and a time, as a table writes them. -/
structure Row.Filled (row : Row) (visibility : Visibility) (instant : Time.Instant) :
    Prop where
  shown : row.visibility = visibility.name
  dated : row.updatedAt = instant.microsText

/-! ## Rows -/

namespace Row

variable {row : Row} {visibility : Visibility} {instant : Time.Instant}

theorem filled_ofDocument (document : Document) :
    (ofDocument document).Filled document.visibility document.updatedAt := ⟨rfl, rfl⟩

/-- Both selections read the same columns. -/
theorem Filled.read (filled : row.Filled visibility instant) (years : instant.FourDigits) :
    ∃ record, row.record = .ok record ∧ row.summary = .ok record.summary ∧
      record.updatedAt = instant.truncateMicros := by
  refine ⟨_, record_eq filled.shown filled.dated years, ?_, rfl⟩
  unfold summary
  rw [readVisibility_eq filled.shown, readTime_eq filled.dated years]
  rfl

theorem Filled.readTime_of_signed (filled : row.Filled visibility instant)
    (signed : ¬instant.FourDigits) (column : Nat) :
    row.readTime column = .error (signedTime column) := by
  unfold readTime
  rw [filled.dated, Time.readExact_of_signed signed]
  rfl

theorem Filled.record_of_signed (filled : row.Filled visibility instant)
    (signed : ¬instant.FourDigits) : row.record = .error (signedTime 9) := by
  unfold record
  rw [readVisibility_eq filled.shown, filled.readTime_of_signed signed]
  rfl

/-- A row as a table writes it is read back exactly if its year has four digits. -/
theorem Filled.damage?_eq (filled : row.Filled visibility instant) :
    row.damage? = if instant.FourDigits then none else some (signedTime 9) := by
  split
  · rename_i years
    obtain ⟨record, read, _⟩ := filled.read years
    exact damage?_eq_none.2 ⟨record, read⟩
  · rename_i signed
    exact damage?_eq_some.2 (filled.record_of_signed signed)

theorem Filled.summary_of_signed (filled : row.Filled visibility instant)
    (signed : ¬instant.FourDigits) : row.summary = .error (signedTime 7) := by
  unfold summary
  rw [readVisibility_eq filled.shown, filled.readTime_of_signed signed]
  rfl

end Row

/-! ## Selections of many rows -/

section Selections

variable {Element Result Cause : Type} {read : Element → Except Cause Result}
  {elements : List Element}

theorem mapM_eq_filterMap (each : ∀ element ∈ elements, ∃ result, read element = .ok result) :
    elements.mapM read = .ok (elements.filterMap fun element => (read element).toOption) := by
  induction elements with
  | nil => rfl
  | cons first rest ih =>
      obtain ⟨result, here⟩ := each first List.mem_cons_self
      have there := ih fun element member => each element (List.mem_cons_of_mem _ member)
      rw [List.mapM_cons, here, there, List.filterMap_cons, here]
      rfl

/-- Where elements fail in one way only, one that fails does for all. -/
theorem mapM_eq_error {cause : Cause}
    (each : ∀ element ∈ elements, (∃ result, read element = .ok result) ∨
      read element = .error cause)
    {element : Element} (member : element ∈ elements) (fails : read element = .error cause) :
    elements.mapM read = .error cause := by
  induction elements with
  | nil => cases member
  | cons first rest ih =>
      rw [List.mapM_cons]
      rcases each first List.mem_cons_self with ⟨result, here⟩ | here
      · rcases List.mem_cons.1 member with rfl | later
        · rw [here] at fails
          cases fails
        · rw [here, ih (fun other there => each other (List.mem_cons_of_mem _ there)) later]
          rfl
      · rw [here]
        rfl

end Selections

namespace Table

/-- The rows that a user may read, newest first by the text of the time. -/
def listed (table : Table) (requester : UserId) : List Row :=
  (table.rows.filter (·.isListedFor requester)).reverse.mergeSort
    fun first second => decide (second.updatedAt ≤ first.updatedAt)

theorem list_eq_mapM (table : Table) (requester : UserId) :
    table.list requester = (table.listed requester).mapM Row.summary := rfl

theorem mem_listed {table : Table} {requester : UserId} {row : Row} :
    row ∈ table.listed requester ↔ row ∈ table.rows ∧ row.isListedFor requester = true := by
  unfold listed
  rw [List.mem_mergeSort, List.mem_reverse, List.mem_filter]

/-- Every row is one that a table has written, whatever its blocks. -/
def Filled (table : Table) : Prop :=
  ∀ row ∈ table.rows, ∃ visibility instant, row.Filled visibility instant

variable {table : Table} {requester : UserId}

theorem Filled.list_of_fourDigits (filled : table.Filled)
    (years : ∀ row ∈ table.rows, row.isListedFor requester = true →
      ∃ instant : Time.Instant, row.updatedAt = instant.microsText ∧ instant.FourDigits) :
    table.list requester =
      .ok ((table.listed requester).filterMap fun row => row.summary.toOption) := by
  rw [list_eq_mapM]
  apply mapM_eq_filterMap
  intro row member
  obtain ⟨there, shown⟩ := mem_listed.1 member
  obtain ⟨visibility, _, written⟩ := filled row there
  obtain ⟨instant, dated, digits⟩ := years row there shown
  have refilled : row.Filled visibility instant := ⟨written.shown, dated⟩
  obtain ⟨record, _, read, _⟩ := refilled.read digits
  exact ⟨record.summary, read⟩

/-- One time with a sign is enough to fail the listing. -/
theorem Filled.list_of_signed (filled : table.Filled) {row : Row} (there : row ∈ table.rows)
    (shown : row.isListedFor requester = true) {instant : Time.Instant}
    (dated : row.updatedAt = instant.microsText) (signed : ¬instant.FourDigits) :
    table.list requester = .error (signedTime 7) := by
  obtain ⟨visibility, _, written⟩ := filled row there
  have refilled : row.Filled visibility instant := ⟨written.shown, dated⟩
  rw [list_eq_mapM]
  refine mapM_eq_error ?_ (mem_listed.2 ⟨there, shown⟩) (refilled.summary_of_signed signed)
  intro other member
  obtain ⟨_, time, filling⟩ := filled other (mem_listed.1 member).1
  by_cases digits : time.FourDigits
  · obtain ⟨record, _, read, _⟩ := filling.read digits
    exact .inl ⟨record.summary, read⟩
  · exact .inr (filling.summary_of_signed digits)

end Table

/-! ## What accesses leave -/

/-- The time that an access writes, if it writes one, is in a year of four digits. -/
def Access.Timely (now : Time.Instant) : Access → Prop
  | .made (.insert document) => document.updatedAt.FourDigits
  | .made (.updateOwned _ _ _) | .forced _ _ => now.FourDigits
  | .made (.get _) | .made (.list _) | .made (.deleteOwned _ _) => True

theorem Access.Timely.ofUpdate {access : Access} {now : Time.Instant}
    (writes : access.Timely now) {update : FieldUpdate} (given : access.update? = some update) :
    now.FourDigits := by
  cases access with
  | made call =>
      cases call with
      | get | list | insert | deleteOwned => cases given
      | updateOwned => exact writes
  | forced => exact writes

variable {steps : List (Time.Instant × Access)} {table : Table} {id : DocumentId}

/-- What every access keeps of the document under an identifier holds after all of them. -/
theorem forall_catalogue {holds : Document → Prop}
    (kept : ∀ step ∈ steps, ∀ before : Option Document, (∀ document ∈ before, holds document) →
      ∀ document ∈ step.2.result step.1 id before, holds document) :
    ∀ document ∈ catalogue steps id, holds document := by
  have run {before : Option Document} (start : ∀ document ∈ before, holds document) :
      ∀ document ∈ steps.foldl (fun kept step => step.2.result step.1 id kept) before,
        holds document := by
    induction steps generalizing before with
    | nil => exact start
    | cons first rest ih =>
        apply ih fun step member => kept step (List.mem_cons_of_mem _ member)
        exact kept first List.mem_cons_self before start
  apply run
  intro document nothing
  cases nothing

theorem id_of_catalogue : ∀ document ∈ catalogue steps id, document.id = id := by
  apply forall_catalogue
  intro step _ before named document left
  rcases Access.result_cases left with kept | ⟨_, same⟩ | ⟨old, update, kept, _, rfl⟩
  · exact named document kept
  · exact same.symm
  · exact named old kept

theorem fourDigits_catalogue (writes : ∀ step ∈ steps, step.2.Timely step.1) :
    ∀ document ∈ catalogue steps id, document.updatedAt.FourDigits := by
  apply forall_catalogue
  intro step member before years document left
  rcases Access.result_cases left with kept | ⟨inserted, _⟩ | ⟨old, update, _, given, rfl⟩
  · exact years document kept
  · have writes := writes step member
    rw [inserted] at writes
    exact writes
  · exact (writes step member).ofUpdate given

/-- The rows of a table are those of the documents that the accesses lead to. -/
theorem mem_rows_catalogue (same : (empty .table).after steps = .table table) {row : Row} :
    row ∈ table.rows ↔
      ∃ document, catalogue steps ⟨row.id⟩ = some document ∧ row = Row.ofDocument document := by
  have entry := entryAt?_catalogue .table steps ⟨row.id⟩
  rw [same] at entry
  have there : row ∈ table.rows ↔ (Store.table table).entryAt? ⟨row.id⟩ = some (.text row) := by
    rw [← mem_pairs]
    simp [pairs]
  rw [there, entry, Option.map_eq_some_iff]
  constructor
  · rintro ⟨document, held, written⟩
    exact ⟨document, held, (Entry.text.inj written).symm⟩
  · rintro ⟨document, held, written⟩
    exact ⟨document, held, congrArg Entry.text written.symm⟩

theorem filled_of_after (same : (empty .table).after steps = .table table) : table.Filled := by
  intro row there
  obtain ⟨document, _, rfl⟩ := (mem_rows_catalogue same).1 there
  exact ⟨_, _, Row.filled_ofDocument document⟩

theorem get?_after (steps : List (Time.Instant × Access)) (id : DocumentId) :
    ((empty .table).after steps).get? id =
      match catalogue steps id with
      | none => .ok none
      | some document => (Row.ofDocument document).record.map some := by
  rw [get?_eq, entryAt?_catalogue]
  cases catalogue steps id <;> rfl

theorem damage?_after (steps : List (Time.Instant × Access)) (id : DocumentId) :
    ((empty .table).after steps).damage? id =
      (catalogue steps id).bind fun document =>
        if document.updatedAt.FourDigits then none else some (signedTime 9) := by
  rw [damage?, entryAt?_catalogue, Option.bind_map]
  cases catalogue steps id with
  | none => rfl
  | some document => exact (Row.filled_ofDocument document).damage?_eq

theorem damage?_of_signed {document : Document} (held : catalogue steps id = some document)
    (signed : ¬document.updatedAt.FourDigits) :
    ((empty .table).after steps).damage? id = some (signedTime 9) := by
  rw [damage?_after, held, Option.bind_some, if_neg signed]

theorem get?_of_signed {document : Document} (held : catalogue steps id = some document)
    (signed : ¬document.updatedAt.FourDigits) :
    ((empty .table).after steps).get? id = .error (signedTime 9) :=
  get?_eq_error.2 (damage?_of_signed held signed)

theorem list_of_signed {document : Document} (held : catalogue steps id = some document)
    {requester : UserId} (shown : document.isVisibleTo requester = true)
    (signed : ¬document.updatedAt.FourDigits) :
    ((empty .table).after steps).list requester = .error (signedTime 7) := by
  obtain ⟨table, same⟩ := exists_table (backend_after (empty .table) steps)
  have there : Row.ofDocument document ∈ table.rows := by
    rw [← id_of_catalogue document held] at held
    exact (mem_rows_catalogue same).2 ⟨document, held, rfl⟩
  rw [← Row.isListedFor_ofDocument] at shown
  rw [same]
  exact (filled_of_after same).list_of_signed there shown rfl signed

/-- What a table that was empty answers after accesses. -/
structure ReadBack (steps : List (Time.Instant × Access)) : Prop where
  /-- A document in a year of four digits is read back, whatever else it says. -/
  read : ∀ id, ∀ document ∈ catalogue steps id, document.updatedAt.FourDigits →
    ((empty .table).after steps).get? id = .ok (some document.tabled)
  /-- A document in any other year is in the table, but is not read back. -/
  refused : ∀ id, ∀ document ∈ catalogue steps id, ¬document.updatedAt.FourDigits →
    (((empty .table).after steps).entryAt? id).isSome ∧
      ((empty .table).after steps).get? id = .error (signedTime 9)
  missing : ∀ id, catalogue steps id = none →
    ((empty .table).after steps).get? id = .ok none
  /-- A listing is answered if all that it shows is in years of four digits. -/
  listed : ∀ requester,
    (∀ id, ∀ document ∈ catalogue steps id, document.isVisibleTo requester = true →
      document.updatedAt.FourDigits) →
    ∃ summaries, ((empty .table).after steps).list requester = .ok summaries
  /-- One document in any other year fails the listing of everybody who may read it. -/
  unlisted : ∀ requester id, ∀ document ∈ catalogue steps id,
    document.isVisibleTo requester = true → ¬document.updatedAt.FourDigits →
    ((empty .table).after steps).list requester = .error (signedTime 7)
  /-- Accesses that write years of four digits leave nothing else. -/
  timely : (∀ step ∈ steps, step.2.Timely step.1) →
    ∀ id, ∀ document ∈ catalogue steps id, document.updatedAt.FourDigits

/-- A table reads back what it accepts, except for times in years without four digits. -/
theorem documents_read_back (steps : List (Time.Instant × Access)) : ReadBack steps := by
  constructor
  case read =>
    intro id document held years
    rw [get?_after, Option.mem_def.1 held]
    dsimp only
    rw [Row.record_ofDocument document years]
    rfl
  case refused =>
    intro id document held signed
    refine ⟨?_, get?_of_signed held signed⟩
    rw [entryAt?_catalogue, Option.mem_def.1 held]
    rfl
  case missing =>
    intro id absent
    rw [get?_after, absent]
  case listed =>
    intro requester years
    obtain ⟨table, same⟩ := exists_table (backend_after (empty .table) steps)
    rw [same]
    refine ⟨_, (filled_of_after same).list_of_fourDigits ?_⟩
    intro row there shown
    obtain ⟨document, held, rfl⟩ := (mem_rows_catalogue same).1 there
    rw [Row.isListedFor_ofDocument] at shown
    exact ⟨document.updatedAt, rfl, years _ document held shown⟩
  case unlisted =>
    intro requester id document held shown signed
    exact list_of_signed held shown signed
  case timely =>
    intro writes id
    exact fourDigits_catalogue writes

/-- A document with an offset that takes its time into the year 10000. Everybody may read
it, so nobody is listed anything any more. -/
theorem refused_in_year_10000 :
    let noon : Time.Instant := ⟨⟨2024, 5, 1, by decide⟩, 720, 0, 0, by decide⟩
    let source : Json := .object
      [("id", .string "t1"), ("owner", .string "ada"), ("name", .string "Welcome"),
        ("category", .string "News"), ("subject", .string "Hi"),
        ("visibility", .string "public"), ("blocks", .array []),
        ("updatedAt", .string "9999-12-31T23:59:59-01:00")]
    ∃ document, Document.decode source = .ok document ∧
      (((empty .table).after [(noon, .made (.insert document))]).entryAt? ⟨"t1"⟩).isSome ∧
      ((empty .table).after [(noon, .made (.insert document))]).get? ⟨"t1"⟩ =
        .error (signedTime 9) ∧
      ∀ requester, ((empty .table).after [(noon, .made (.insert document))]).list requester =
        .error (signedTime 7) := by
  intro noon source
  let time : Time.Instant := ⟨⟨10000, 1, 1, by decide⟩, 59, 59, 0, by decide⟩
  let document : Document :=
    ⟨⟨"t1"⟩, ⟨"ada"⟩, "Welcome", "News", "Hi", none, .everyone, none, [], time⟩
  have signed : ¬time.FourDigits := by decide
  have held : catalogue [(noon, .made (.insert document))] ⟨"t1"⟩ = some document := rfl
  refine ⟨document, rfl, rfl, get?_of_signed held signed, ?_⟩
  intro requester
  exact list_of_signed held rfl signed

end Store

end BlockMail
