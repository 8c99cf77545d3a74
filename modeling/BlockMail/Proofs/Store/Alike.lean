import Mathlib.Data.List.Forall2
import BlockMail.Proofs.Store.Entry

/-!
# Stores that look alike

Two stores look alike to a user when they hold the same documents but for what
other users keep private. The calls that a user makes answer alike and leave
stores that still look alike.
-/

set_option autoImplicit false

namespace BlockMail

/-- Results that fail alike, or are related. -/
inductive Agree {Cause Left Right : Type} (related : Left → Right → Prop) :
    Except Cause Left → Except Cause Right → Prop where
  | ok {left : Left} {right : Right} :
      related left right → Agree related (.ok left) (.ok right)
  | error (cause : Cause) : Agree related (.error cause) (.error cause)

theorem Agree.map {Cause Left Right LeftImage RightImage : Type}
    {related : Left → Right → Prop} {relatedImages : LeftImage → RightImage → Prop}
    {leftImage : Left → LeftImage} {rightImage : Right → RightImage}
    (lifts : ∀ left right, related left right →
      relatedImages (leftImage left) (rightImage right))
    {left : Except Cause Left} {right : Except Cause Right}
    (agree : Agree related left right) :
    Agree relatedImages (left.map leftImage) (right.map rightImage) := by
  cases agree with
  | ok here => exact .ok (lifts _ _ here)
  | error cause => exact .error cause

/-- Equal records, or private ones of one other user under one identifier. -/
inductive DocumentRecord.Alike (user : UserId) :
    DocumentRecord → DocumentRecord → Prop where
  | same (record : DocumentRecord) : Alike user record record
  | hidden {left right : DocumentRecord} :
      left.id = right.id → left.owner = right.owner → left.owner ≠ user →
      left.visibility = .ownerOnly → right.visibility = .ownerOnly →
      Alike user left right

namespace Store

/-- Equal rows, or private ones of one other user under one identifier. Both are read
back, or neither is, for one reason. -/
inductive Row.Alike (user : UserId) : Row → Row → Prop where
  | same (row : Row) : Alike user row row
  | hidden {left right : Row} :
      left.id = right.id → left.owner = right.owner → left.owner ≠ user.text →
      left.visibility = Visibility.ownerOnly.name →
      right.visibility = Visibility.ownerOnly.name →
      left.damage? = right.damage? →
      Alike user left right

/-- Records that look alike under one key. -/
def PairAlike (user : UserId) (left right : String × DocumentRecord) : Prop :=
  left.1 = right.1 ∧ left.2.Alike user right.2

/-- Stores of one kind with documents that look alike, one by one. -/
inductive Alike (user : UserId) : Store → Store → Prop where
  | memory {left right : MemoryStore} :
      List.Forall₂ (PairAlike user) left.records.entries right.records.entries →
      Alike user (.memory left) (.memory right)
  | table {left right : Table} :
      List.Forall₂ (Row.Alike user) left.rows right.rows →
      Alike user (.table left) (.table right)

/-- A call that acts for a user. -/
def Call.MadeBy (user : UserId) : Call → Prop
  | .get _ | .insert _ => True
  | .list requester => requester = user
  | .updateOwned _ owner _ | .deleteOwned _ owner => owner = user

/-- Answers that are equal, but for a record that is hidden from the user. -/
def Call.AnswersAlike (user : UserId) :
    (call : Call) → (left right : Except Failure call.Reply) → Prop
  | .get _, left, right => Agree (Option.Rel (DocumentRecord.Alike user)) left right
  | .list _, left, right => left = right
  | .insert _, left, right => left = right
  | .updateOwned _ _ _, left, right => left = right
  | .deleteOwned _ _, left, right => left = right

/-! ## Lists of related elements -/

section Lists

variable {Element : Type} {related : Element → Element → Prop}
  {left right : List Element}

theorem rel_option_map {Image : Type} {relatedImages : Image → Image → Prop}
    {image : Element → Image}
    (lifts : ∀ first second, related first second →
      relatedImages (image first) (image second))
    {first second : Option Element} (alike : Option.Rel related first second) :
    Option.Rel relatedImages (first.map image) (second.map image) := by
  cases alike with
  | none => exact .none
  | some here => exact .some (lifts _ _ here)

theorem find?_forall₂ (test : Element → Bool)
    (alike : List.Forall₂ related left right)
    (agree : ∀ first second, related first second → test first = test second) :
    Option.Rel related (left.find? test) (right.find? test) := by
  induction alike with
  | nil => exact .none
  | cons here _ ih =>
      simp only [List.find?_cons, agree _ _ here]
      split
      · exact .some here
      · exact ih

/-- Where related elements that pass a test are equal, so are the lists of those
that pass. -/
theorem filter_eq_of_forall₂ {test : Element → Bool}
    (alike : List.Forall₂ related left right)
    (agree : ∀ first second, related first second → test first = test second)
    (same : ∀ first second, related first second → test first = true →
      first = second) :
    left.filter test = right.filter test := by
  induction alike with
  | nil => rfl
  | cons here _ ih =>
      simp only [List.filter_cons, agree _ _ here, ih]
      split
      · rename_i passes
        rw [same _ _ here (by rw [agree _ _ here, passes])]
      · rfl

theorem countP_eq_of_forall₂ {test : Element → Bool}
    (alike : List.Forall₂ related left right)
    (agree : ∀ first second, related first second → test first = test second) :
    left.countP test = right.countP test := by
  induction alike with
  | nil => rfl
  | cons here _ ih => simp only [List.countP_cons, agree _ _ here, ih]

end Lists

/-! ## Calls of the memory store -/

variable {user : UserId}

theorem owner_of_alike {left right : DocumentRecord} (alike : left.Alike user right) :
    left.owner = right.owner := by
  cases alike with
  | same => rfl
  | hidden _ owner => exact owner

/-- Records that look alike to their owner are equal. -/
theorem eq_of_alike_of_owner {left right : DocumentRecord}
    (alike : left.Alike user right) (owned : left.owner = user) : left = right := by
  cases alike with
  | same => rfl
  | hidden _ _ foreign => exact absurd owned foreign

theorem isVisibleTo_of_alike {left right : DocumentRecord}
    (alike : left.Alike user right) :
    left.isVisibleTo user = right.isVisibleTo user := by
  cases alike with
  | same => rfl
  | hidden _ owner foreign leftHidden rightHidden =>
      simp [DocumentRecord.isVisibleTo, leftHidden, rightHidden, owner]

/-- Records that look alike and are visible are equal. -/
theorem eq_of_alike_of_visible {left right : DocumentRecord}
    (alike : left.Alike user right) (visible : left.isVisibleTo user = true) :
    left = right := by
  cases alike with
  | same => rfl
  | hidden _ _ foreign hidden =>
      simp [DocumentRecord.isVisibleTo, hidden, foreign] at visible

namespace MemoryStore

variable {left right : MemoryStore}

theorem get?_alike
    (alike : List.Forall₂ (PairAlike user) left.records.entries
      right.records.entries) (id : DocumentId) :
    Option.Rel (DocumentRecord.Alike user) (left.get? id) (right.get? id) := by
  have found := find?_forall₂ (fun pair => pair.1 == id.text) alike
    fun first second looks => by rw [looks.1]
  exact rel_option_map (fun _ _ looks => looks.2) found

theorem insertSorted_alike {left right : List (String × DocumentRecord)}
    (alike : List.Forall₂ (PairAlike user) left right) (key : String)
    (record : DocumentRecord) :
    List.Forall₂ (PairAlike user) (Keyed.insertSorted key record left)
      (Keyed.insertSorted key record right) := by
  have written : PairAlike user (key, record) (key, record) := ⟨rfl, .same record⟩
  induction alike with
  | nil => exact .cons written .nil
  | @cons first second _ _ here rest ih =>
      obtain ⟨leftKey, leftRecord⟩ := first
      obtain ⟨rightKey, rightRecord⟩ := second
      obtain ⟨rfl, looks⟩ := here
      simp only [Keyed.insertSorted]
      split
      · exact .cons written (.cons ⟨rfl, looks⟩ rest)
      · split
        · exact .cons written rest
        · exact .cons ⟨rfl, looks⟩ ih

theorem erase_alike
    (alike : List.Forall₂ (PairAlike user) left.records.entries
      right.records.entries) (key : String) :
    List.Forall₂ (PairAlike user) (left.records.erase key).entries
      (right.records.erase key).entries :=
  List.rel_filter (fun _ _ looks => by simp only [looks.1]) alike

theorem list_alike
    (alike : List.Forall₂ (PairAlike user) left.records.entries
      right.records.entries) :
    left.list user = right.list user := by
  have values : List.Forall₂ (DocumentRecord.Alike user) left.records.values
      right.records.values :=
    List.rel_map (fun _ _ same => same.2) alike
  unfold list
  rw [filter_eq_of_forall₂ values (fun _ _ => isVisibleTo_of_alike)
    fun _ _ => eq_of_alike_of_visible]

/-- What a change by the user applies to is the same record in both. -/
theorem filter_owner_eq {left right : Option DocumentRecord}
    (alike : Option.Rel (DocumentRecord.Alike user) left right) :
    (left.filter fun record => record.owner == user) =
      right.filter fun record => record.owner == user := by
  cases alike with
  | none => rfl
  | @some left right looks =>
      by_cases owned : left.owner = user
      · rw [eq_of_alike_of_owner looks owned]
      · have foreign : right.owner ≠ user := owner_of_alike looks ▸ owned
        simp [Option.filter_some, owned, foreign]

theorem updateOwned_alike
    (alike : List.Forall₂ (PairAlike user) left.records.entries
      right.records.entries) (id : DocumentId) (update : FieldUpdate)
    (now : Time.Instant) :
    List.Forall₂ (PairAlike user)
        (left.updateOwned id user update now).1.records.entries
        (right.updateOwned id user update now).1.records.entries ∧
      (left.updateOwned id user update now).2 =
        (right.updateOwned id user update now).2 := by
  have same := filter_owner_eq (get?_alike alike id)
  simp only [updateOwned, updateIf, same]
  split
  · exact ⟨insertSorted_alike alike _ _, rfl⟩
  · exact ⟨alike, rfl⟩

theorem deleteOwned_alike
    (alike : List.Forall₂ (PairAlike user) left.records.entries
      right.records.entries) (id : DocumentId) :
    List.Forall₂ (PairAlike user) (left.deleteOwned id user).1.records.entries
        (right.deleteOwned id user).1.records.entries ∧
      (left.deleteOwned id user).2 = (right.deleteOwned id user).2 := by
  have same := filter_owner_eq (get?_alike alike id)
  simp only [deleteOwned, same]
  split
  · exact ⟨erase_alike alike _, rfl⟩
  · exact ⟨alike, rfl⟩

theorem insert_alike
    (alike : List.Forall₂ (PairAlike user) left.records.entries
      right.records.entries) (document : Document) :
    Agree (fun left right : MemoryStore =>
        List.Forall₂ (PairAlike user) left.records.entries right.records.entries)
      (left.insert document) (right.insert document) := by
  have found := get?_alike alike document.id
  have taken : (left.get? document.id).isSome = (right.get? document.id).isSome := by
    revert found
    generalize left.get? document.id = leftRecord,
      right.get? document.id = rightRecord
    intro found
    cases found <;> rfl
  unfold insert
  rw [taken]
  split
  · exact .error _
  · exact .ok (insertSorted_alike alike _ _)

end MemoryStore

/-! ## Calls of the table -/

theorem Row.id_of_alike {left right : Row} (alike : left.Alike user right) :
    left.id = right.id := by
  cases alike with
  | same => rfl
  | hidden id => exact id

theorem Row.owner_of_alike {left right : Row} (alike : left.Alike user right) :
    left.owner = right.owner := by
  cases alike with
  | same => rfl
  | hidden _ owner => exact owner

theorem Row.eq_of_alike_of_owner {left right : Row} (alike : left.Alike user right)
    (owned : left.owner = user.text) : left = right := by
  cases alike with
  | same => rfl
  | hidden _ _ foreign => exact absurd owned foreign

theorem Row.isListedFor_of_alike {left right : Row} (alike : left.Alike user right) :
    left.isListedFor user = right.isListedFor user := by
  cases alike with
  | same => rfl
  | hidden _ owner _ leftHidden rightHidden =>
      simp [Row.isListedFor, leftHidden, rightHidden, owner]

theorem Row.eq_of_alike_of_listed {left right : Row} (alike : left.Alike user right)
    (listed : left.isListedFor user = true) : left = right := by
  cases alike with
  | same => rfl
  | hidden _ _ foreign hidden =>
      simp [Row.isListedFor, hidden, foreign, Visibility.name] at listed

theorem Row.record_alike {left right : Row} (alike : left.Alike user right) :
    Agree (DocumentRecord.Alike user) left.record right.record := by
  cases alike with
  | same =>
      cases left.record with
      | ok record => exact .ok (.same record)
      | error failure => exact .error failure
  | hidden id owner foreign leftHidden rightHidden damage =>
      cases read : left.record with
      | error failure =>
          rw [damage?_eq_some.2 read, eq_comm, damage?_eq_some] at damage
          rw [damage]
          exact .error failure
      | ok record =>
          rw [damage?_eq_none.2 ⟨record, read⟩, eq_comm, damage?_eq_none] at damage
          obtain ⟨other, readToo⟩ := damage
          have reads : (Entry.text left).ReadsAs record := Entry.readsAs read
          have readsToo : (Entry.text right).ReadsAs other := Entry.readsAs readToo
          rw [readToo]
          refine .ok (.hidden ?_ ?_ ?_ ?_ ?_)
          · rw [reads.id, readsToo.id]
            exact congrArg DocumentId.mk id
          · rw [reads.owner, readsToo.owner]
            exact congrArg UserId.mk owner
          · rw [reads.owner]
            rintro rfl
            exact foreign rfl
          · exact Visibility.name_inj (reads.visibility.trans leftHidden)
          · exact Visibility.name_inj (readsToo.visibility.trans rightHidden)

namespace Table

variable {left right : Table}

theorem get?_alike (alike : List.Forall₂ (Row.Alike user) left.rows right.rows)
    (id : DocumentId) :
    Agree (Option.Rel (DocumentRecord.Alike user)) (left.get? id) (right.get? id) := by
  have found := find?_forall₂ (fun row => row.id == id.text) alike
    fun first second looks => by rw [Row.id_of_alike looks]
  change Option.Rel _ (left.row? id) (right.row? id) at found
  unfold get?
  revert found
  generalize left.row? id = leftRow, right.row? id = rightRow
  intro found
  cases found with
  | none => exact .ok .none
  | some looks => exact (Row.record_alike looks).map fun _ _ => .some

theorem list_alike (alike : List.Forall₂ (Row.Alike user) left.rows right.rows) :
    left.list user = right.list user := by
  unfold list
  rw [filter_eq_of_forall₂ alike (fun _ _ => Row.isListedFor_of_alike)
    fun _ _ => Row.eq_of_alike_of_listed]

theorem insert_alike (alike : List.Forall₂ (Row.Alike user) left.rows right.rows)
    (document : Document) :
    Agree (fun left right : Table => List.Forall₂ (Row.Alike user) left.rows right.rows)
      (left.insert document) (right.insert document) := by
  have keys : left.rows.map Row.id = right.rows.map Row.id := by
    rw [← List.forall₂_eq_eq_eq]
    exact List.rel_map (fun _ _ looks => Row.id_of_alike looks) alike
  unfold insert
  simp only [keys]
  split
  · exact .error _
  · exact .ok (List.rel_append alike (.cons (.same _) .nil))

/-- Whether the user owns the row under an identifier, by the text of its
columns. -/
theorem selects_alike {left right : Row} (looks : left.Alike user right)
    (id : DocumentId) :
    (left.id == id.text && left.owner == user.text) =
      (right.id == id.text && right.owner == user.text) := by
  rw [Row.id_of_alike looks, Row.owner_of_alike looks]

theorem updateOwned_alike (alike : List.Forall₂ (Row.Alike user) left.rows right.rows)
    (id : DocumentId) (update : FieldUpdate) (now : Time.Instant) :
    List.Forall₂ (Row.Alike user) (left.updateOwned id user update now).1.rows
        (right.updateOwned id user update now).1.rows ∧
      (left.updateOwned id user update now).2 =
        (right.updateOwned id user update now).2 := by
  refine ⟨List.rel_map ?_ alike,
    countP_eq_of_forall₂ alike fun _ _ looks => selects_alike looks id⟩
  intro first second looks
  simp only [selects_alike looks id]
  split
  · rename_i selected
    have owned : first.owner = user.text := by
      rw [Row.owner_of_alike looks]
      simpa using (Bool.and_eq_true_iff.1 selected).2
    rw [Row.eq_of_alike_of_owner looks owned]
    exact .same _
  · exact looks

theorem deleteOwned_alike (alike : List.Forall₂ (Row.Alike user) left.rows right.rows)
    (id : DocumentId) :
    List.Forall₂ (Row.Alike user) (left.deleteOwned id user).1.rows
        (right.deleteOwned id user).1.rows ∧
      (left.deleteOwned id user).2 = (right.deleteOwned id user).2 := by
  refine ⟨List.rel_filter ?_ alike,
    countP_eq_of_forall₂ alike fun _ _ looks => selects_alike looks id⟩
  intro first second looks
  simp only [selects_alike looks id]

end Table

/-! ## Calls of either store -/

theorem performed_insertion {left right : Store} (alike : left.Alike user right)
    {document : Document} {now : Time.Instant}
    (inserted : Agree (Alike user) (left.insert document) (right.insert document)) :
    (left.perform now (.insert document)).1.Alike user
        (right.perform now (.insert document)).1 ∧
      (left.perform now (.insert document)).2 =
        (right.perform now (.insert document)).2 := by
  simp only [perform]
  revert inserted
  generalize left.insert document = leftNext, right.insert document = rightNext
  intro inserted
  cases inserted with
  | ok looks => exact ⟨looks, rfl⟩
  | error failure => exact ⟨alike, rfl⟩

theorem perform_alike {left right : Store} (alike : left.Alike user right)
    {call : Call} (own : call.MadeBy user) (now : Time.Instant) :
    (left.perform now call).1.Alike user (right.perform now call).1 ∧
      call.AnswersAlike user (left.perform now call).2 (right.perform now call).2 := by
  cases alike with
  | memory looks =>
      cases call with
      | get id => exact ⟨.memory looks, .ok (MemoryStore.get?_alike looks id)⟩
      | list requester =>
          cases own
          exact ⟨.memory looks, congrArg Except.ok (MemoryStore.list_alike looks)⟩
      | insert document =>
          exact performed_insertion (.memory looks)
            ((MemoryStore.insert_alike looks document).map fun _ _ => .memory)
      | updateOwned id owner update =>
          cases own
          obtain ⟨after, count⟩ := MemoryStore.updateOwned_alike looks id update now
          exact ⟨.memory after, congrArg Except.ok count⟩
      | deleteOwned id owner =>
          cases own
          obtain ⟨after, count⟩ := MemoryStore.deleteOwned_alike looks id
          exact ⟨.memory after, congrArg Except.ok count⟩
  | table looks =>
      cases call with
      | get id => exact ⟨.table looks, Table.get?_alike looks id⟩
      | list requester =>
          cases own
          exact ⟨.table looks, Table.list_alike looks⟩
      | insert document =>
          exact performed_insertion (.table looks)
            ((Table.insert_alike looks document).map fun _ _ => .table)
      | updateOwned id owner update =>
          cases own
          obtain ⟨after, count⟩ := Table.updateOwned_alike looks id update now
          exact ⟨.table after, congrArg Except.ok count⟩
      | deleteOwned id owner =>
          cases own
          obtain ⟨after, count⟩ := Table.deleteOwned_alike looks id
          exact ⟨.table after, congrArg Except.ok count⟩

end Store

end BlockMail
