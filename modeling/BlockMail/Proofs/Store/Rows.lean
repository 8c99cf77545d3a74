import BlockMail.Proofs.Template.Reread
import BlockMail.Proofs.Time.Timestamps
import BlockMail.Store.Table

/-!
# Rows read back

What a selection makes of the row of a document. The time comes back without what lies
below a microsecond, and the blocks as text, which is parsed when it is decoded.
-/

set_option autoImplicit false

namespace BlockMail

/-- Whether the text of blocks in a row parses to the blocks. -/
def Blocks.Reparses (blocks : List Block) : Prop :=
  Json.parse? (Store.Row.blocksText blocks) = some (Blocks.toJson blocks)

theorem Blocks.decode_text {blocks : List Block} (reparses : Blocks.Reparses blocks) :
    Blocks.decode (.string (Store.Row.blocksText blocks)) = .ok blocks :=
  (Blocks.decode_parsed reparses).trans (Blocks.decode_toJson blocks)

/-- The text of blocks without doubles parses to what was written. -/
theorem Blocks.reparses_of_exact {blocks : List Block} (storable : Storable blocks)
    (noDouble : Exact blocks) : Reparses blocks := by
  unfold Reparses
  rw [parse?_blocksText (regular_of_storable storable), reread_eq storable noDouble]

namespace Store.Row

theorem readVisibility_eq {row : Row} {visibility : Visibility}
    (named : row.visibility = visibility.name) (column : Nat) :
    row.readVisibility column = .ok visibility := by
  unfold readVisibility
  rw [named]
  cases visibility <;> rfl

theorem readTime_eq {row : Row} {now : Time.Instant} (dated : row.updatedAt = now.microsText)
    (years : now.FourDigits) (column : Nat) :
    row.readTime column = .ok now.truncateMicros := by
  unfold readTime
  rw [dated, Time.readExact_microsText years]

/-- The record of a row with the name of a visibility and the text of a time in years
of four digits. -/
theorem record_eq {row : Row} {visibility : Visibility} {now : Time.Instant}
    (named : row.visibility = visibility.name) (dated : row.updatedAt = now.microsText)
    (years : now.FourDigits) :
    row.record = .ok
      { id := ⟨row.id⟩
        owner := ⟨row.owner⟩
        name := row.name
        category := row.category
        subject := row.subject
        description := row.description
        visibility := visibility
        forkedFrom := row.forkedFrom.map DocumentId.mk
        blocks := .string row.blocks
        updatedAt := now.truncateMicros } := by
  unfold record
  rw [readVisibility_eq named, readTime_eq dated years]
  rfl

/-- The record of the row of a document in a year of four digits. -/
theorem record_ofDocument (document : Document)
    (years : document.updatedAt.FourDigits) :
    (ofDocument document).record =
      .ok { document with
        blocks := .string (blocksText document.blocks)
        updatedAt := document.updatedAt.truncateMicros } := by
  have named : (ofDocument document).visibility = document.visibility.name := rfl
  have dated : (ofDocument document).updatedAt = document.updatedAt.microsText := rfl
  rw [record_eq named dated years]
  obtain ⟨id, owner, name, category, subject, description, visibility, forkedFrom, blocks,
    updatedAt⟩ := document
  cases forkedFrom <;> rfl

theorem summary_ofDocument (document : Document)
    (years : document.updatedAt.FourDigits) :
    (ofDocument document).summary =
      .ok { document.summary with updatedAt := document.updatedAt.truncateMicros } := by
  have named : (ofDocument document).visibility = document.visibility.name := rfl
  have dated : (ofDocument document).updatedAt = document.updatedAt.microsText := rfl
  unfold summary
  rw [readVisibility_eq named, readTime_eq dated years]
  obtain ⟨id, owner, name, category, subject, description, visibility, forkedFrom, blocks,
    updatedAt⟩ := document
  cases forkedFrom <;> rfl

theorem id_of_summary {row : Row} {summary : Summary} (read : row.summary = .ok summary) :
    summary.id = ⟨row.id⟩ := by
  simp only [Row.summary, bind, Except.bind] at read
  split at read
  · cases read
  · split at read
    · cases read
    · cases read
      rfl

end Store.Row

end BlockMail
