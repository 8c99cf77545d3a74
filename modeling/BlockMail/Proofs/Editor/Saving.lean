import BlockMail.Proofs.Editor.Session

/-!
# Sessions and their saves

A save takes time: its patch is taken, the author may go on, and then it is answered.
Saves follow one after the other. A session that is not dirty shows what was saved last,
as long as nothing was edited while that save was on its way. The answer to a save clears
the flag in any case, and an edit made in between is then no longer told from a saved one.
-/

set_option autoImplicit false

namespace BlockMail

/-- The content of a document is that of a patch. A fork has a visibility of its own. -/
structure Document.Carries (document : Document) (patch : DocumentPatch) (forks : Bool) :
    Prop where
  name : patch.name = some document.name
  category : patch.category = some document.category
  subject : patch.subject = some document.subject
  description : patch.description = some (document.description.getD "")
  blocks : patch.blocks = some (Blocks.toJson document.blocks)
  visibility : forks = false → patch.visibility = some document.visibility

/-- What an author can change is the same in two documents. -/
structure Document.SameContent (origin document : Document) : Prop where
  name : document.name = origin.name
  category : document.category = origin.category
  subject : document.subject = origin.subject
  description : document.description = origin.description
  blocks : document.blocks = origin.blocks
  visibility : document.visibility = origin.visibility

/-- A save that has been sent, with the version of the session at that time. -/
structure SentSave where
  patch : DocumentPatch
  taken : Nat

/-- A save that has been answered, with the version of the session at that time. -/
structure AnsweredSave extends SentSave where
  outcome : SaveOutcome
  answered : Nat

structure Desk where
  session : EditSession
  sent : Option SentSave
  saved : Option AnsweredSave

namespace Desk

open EditSession

def start (origin : Document) : Desk := ⟨.start origin, none, none⟩

/-- What comes next: the author does something, or a save is sent or answered. -/
inductive Turn where
  | step (step : Step)
  | send
  | answer (outcome : SaveOutcome) (requester : UserId)

/-- A save is sent when none is on its way, and answered when one is. -/
def turn (desk : Desk) : Turn → Desk
  | .step step => { desk with session := desk.session.take step }
  | .send =>
      match desk.sent with
      | none => { desk with sent := some ⟨desk.session.toPatch, desk.session.version⟩ }
      | some _ => desk
  | .answer outcome requester =>
      match desk.sent with
      | none => desk
      | some save =>
          { session := desk.session.markSaved outcome requester
            sent := none
            saved := some { save with outcome, answered := desk.session.version } }

def turns (desk : Desk) (done : List Turn) : Desk := done.foldl turn desk

/-- The session shows what was saved last, or else what was opened. -/
def ShowsSaved (origin : Document) (desk : Desk) : Prop :=
  match desk.saved with
  | none => origin.SameContent desk.session.document
  | some save => desk.session.document.Carries save.patch save.outcome.created

def Undisturbed (desk : Desk) : Prop := ∀ save ∈ desk.saved, save.answered = save.taken

/-! ## What every turn keeps -/

variable {origin : Document} {desk : Desk}

/-- A step edits the document and says so, or leaves the document as it is. -/
inductive Took (session next : EditSession) : Prop where
  | edited (dirty : next.isDirty = true) (later : session.version < next.version)
  | same (document : next.document = session.document)
      (dirty : next.isDirty = session.isDirty) (version : next.version = session.version)

theorem took_apply {session next : EditSession} {edit : Edit} {created : Option String}
    (applied : session.apply edit = .ok (next, created)) : Took session next := by
  have changed := applied_of_apply applied
  refine .edited changed.isDirty ?_
  rw [changed.version]
  exact Nat.lt_succ_self _

theorem took_applyAll (session : EditSession) (edits : List Edit) :
    Took session (session.applyAll edits).1 := by
  induction edits generalizing session with
  | nil => exact .same rfl rfl rfl
  | cons edit rest ih =>
      unfold applyAll
      cases applied : session.apply edit with
      | error cause => exact .same rfl rfl rfl
      | ok result =>
          obtain ⟨next, created⟩ := result
          have changed := applied_of_apply applied
          have later : session.version < next.version := by
            rw [changed.version]
            exact Nat.lt_succ_self _
          cases ih next with
          | edited dirty further => exact .edited dirty (later.trans further)
          | same _ dirty version =>
              exact .edited (dirty.trans changed.isDirty) (later.trans_eq version.symm)

theorem took_take (session : EditSession) (step : Step) : Took session (session.take step) := by
  cases step with
  | apply edit =>
      simp only [take]
      cases applied : session.apply edit with
      | error cause => exact .same rfl rfl rfl
      | ok result => exact took_apply applied
  | applyAll edits => exact took_applyAll session edits
  | select id =>
      simp only [take]
      cases selected : session.select id with
      | error cause => exact .same rfl rfl rfl
      | ok next =>
          dsimp only
          rw [eq_of_select selected]
          exact .same rfl rfl rfl

theorem carries_toPatch (session : EditSession) (forks : Bool) :
    session.document.Carries session.toPatch forks :=
  ⟨rfl, rfl, rfl, rfl, rfl, fun _ => rfl⟩

theorem carries_markSaved {session : EditSession} {patch : DocumentPatch}
    (outcome : SaveOutcome) (requester : UserId)
    (carries : session.document.Carries patch false) :
    (session.markSaved outcome requester).document.Carries patch outcome.created := by
  obtain ⟨id, created⟩ := outcome
  cases created with
  | false => exact carries
  | true =>
      obtain ⟨name, category, subject, description, blocks, _⟩ := carries
      exact ⟨name, category, subject, description, blocks, nofun⟩

/-- The patch that is on its way has the content of the session if nothing was edited
since, and the flag of a session is honest about an undisturbed save. -/
structure Kept (origin : Document) (desk : Desk) : Prop where
  taken : ∀ save ∈ desk.sent, save.taken ≤ desk.session.version
  sent : ∀ save ∈ desk.sent, save.taken = desk.session.version →
    desk.session.document.Carries save.patch false
  clean : desk.session.isDirty = false → desk.Undisturbed → desk.ShowsSaved origin

theorem kept_start (origin : Document) : (start origin).Kept origin :=
  ⟨nofun, nofun, fun _ _ => ⟨rfl, rfl, rfl, rfl, rfl, rfl⟩⟩

theorem Kept.step (kept : desk.Kept origin) (step : Step) :
    (desk.turn (.step step)).Kept origin := by
  cases took_take desk.session step with
  | edited dirty later =>
      -- The patch on its way is older than the session now, and says nothing about it.
      have before (save : SentSave) (found : save ∈ desk.sent) :
          save.taken < (desk.session.take step).version :=
        (kept.taken save found).trans_lt later
      refine ⟨fun save found => (before save found).le, ?_, ?_⟩
      · intro save found now
        exact absurd now (before save found).ne
      · intro clean
        exact absurd (dirty.symm.trans clean) (by decide)
  | same document dirty version =>
      refine ⟨?_, ?_, ?_⟩
      · rw [turn, version]
        exact kept.taken
      · rw [turn, version, document]
        exact kept.sent
      · simp only [turn, ShowsSaved, dirty, document]
        exact kept.clean

theorem Kept.send (kept : desk.Kept origin) : (desk.turn .send).Kept origin := by
  unfold turn
  cases way : desk.sent with
  | some save => exact kept
  | none =>
      refine ⟨?_, ?_, kept.clean⟩
      · rintro _ ⟨⟩
        exact le_rfl
      · rintro _ ⟨⟩ _
        exact carries_toPatch desk.session false

/-- The answer clears the flag. What is shown then is the patch that was sent if the
version is still the one at which it was taken. -/
theorem Kept.answer (kept : desk.Kept origin) (outcome : SaveOutcome) (requester : UserId) :
    (desk.turn (.answer outcome requester)).Kept origin := by
  unfold turn
  cases way : desk.sent with
  | none => exact kept
  | some save =>
      refine ⟨nofun, nofun, ?_⟩
      intro _ undisturbed
      have same : desk.session.version = save.taken := undisturbed _ rfl
      exact carries_markSaved outcome requester (kept.sent save way same.symm)

theorem Kept.turn (kept : desk.Kept origin) (next : Turn) : (desk.turn next).Kept origin := by
  cases next with
  | step step => exact kept.step step
  | send => exact kept.send
  | answer outcome requester => exact kept.answer outcome requester

theorem Kept.turns {done : List Turn} (kept : desk.Kept origin) :
    (desk.turns done).Kept origin := by
  induction done generalizing desk with
  | nil => exact kept
  | cons first rest ih => exact ih (kept.turn first)

/-- After any run of edits, selections and saves, one save at a time, a session that is
not dirty shows what was saved last, or what was opened if nothing was saved, when the
last save was answered before the next edit. -/
theorem clean_shows_saved (origin : Document) (done : List Turn)
    (undisturbed : ((start origin).turns done).Undisturbed)
    (clean : ((start origin).turns done).session.isDirty = false) :
    ((start origin).turns done).ShowsSaved origin :=
  (kept_start origin).turns.clean clean undisturbed

private theorem mayDay_valid : Time.ValidDate 2024 5 1 := by decide

private theorem noon_valid : Time.ValidTime 720 0 0 := by decide

private def welcome : Document :=
  ⟨⟨"d1"⟩, ⟨"ada"⟩, "Welcome", "Onboarding", "Hello", none, .everyone, none,
    [⟨"body", .text "Hi", .empty⟩], ⟨⟨2024, 5, 1, mayDay_valid⟩, 720, 0, 0, noon_valid⟩⟩

/-- An edit is saved as a fork, and one that fails does not count. -/
theorem clean_shows_saved_fork :
    let done : List Turn :=
      [.step (.apply ⟨.setName "Hello", ""⟩), .send, .step (.apply ⟨.removeBlock "none", ""⟩),
        .answer ⟨⟨"d2"⟩, true⟩ ⟨"bob"⟩]
    ((start welcome).turns done).session.document.visibility = .ownerOnly ∧
      ((start welcome).turns done).ShowsSaved welcome := by
  intro done
  have undisturbed : ((start welcome).turns done).Undisturbed := by
    rintro _ ⟨⟩
    rfl
  exact ⟨rfl, clean_shows_saved welcome done undisturbed rfl⟩

/-- The second name is set after the patch with the first was taken. The answer clears the
flag all the same. -/
theorem clean_after_late_edit :
    let done : List Turn :=
      [.step (.apply ⟨.setName "First", ""⟩), .send, .step (.apply ⟨.setName "Second", ""⟩),
        .answer ⟨⟨"d1"⟩, false⟩ ⟨"ada"⟩]
    ((start welcome).turns done).session.isDirty = false ∧
      ¬ ((start welcome).turns done).ShowsSaved welcome := by
  intro done
  refine ⟨rfl, ?_⟩
  intro shows
  have name : some "First" = some "Second" := shows.name
  exact absurd name (by decide)

end Desk

end BlockMail
