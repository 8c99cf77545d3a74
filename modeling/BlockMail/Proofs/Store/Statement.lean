import Mathlib.Data.List.Zip
import BlockMail.Store.Table

/-!
# Updates as statements

A table is updated by a statement with placeholders, and the values for them stand in one
list of their own: first those of the columns that are set, which depend on the update,
then those of the columns that are compared. Each value finds its column by its position
alone. Carrying out the statement is the update of the table.
-/

set_option autoImplicit false

namespace BlockMail.Store

/-- The columns that a statement sets or compares. -/
inductive Column where
  | id
  | owner
  | name
  | category
  | subject
  | description
  | visibility
  | blocks
  | updatedAt

/-- The value of a placeholder or in a column. -/
inductive Cell where
  | null
  | text (text : String)
deriving DecidableEq

def Cell.ofOption : Option String → Cell
  | some value => .text value
  | none => .null

namespace Row

def cell (row : Row) : Column → Cell
  | .id => .text row.id
  | .owner => .text row.owner
  | .name => .text row.name
  | .category => .text row.category
  | .subject => .text row.subject
  | .description => .ofOption row.description
  | .visibility => .text row.visibility
  | .blocks => .text row.blocks
  | .updatedAt => .text row.updatedAt

/-- The row with a value in a column, if the column takes it. Only a description can be
null. -/
def write? (row : Row) : Column → Cell → Option Row
  | .description, .null => some { row with description := none }
  | _, .null => none
  | .id, .text text => some { row with id := text }
  | .owner, .text text => some { row with owner := text }
  | .name, .text text => some { row with name := text }
  | .category, .text text => some { row with category := text }
  | .subject, .text text => some { row with subject := text }
  | .description, .text text => some { row with description := some text }
  | .visibility, .text text => some { row with visibility := text }
  | .blocks, .text text => some { row with blocks := text }
  | .updatedAt, .text text => some { row with updatedAt := text }

def writeAll? (row : Row) (pairs : List (Column × Cell)) : Option Row :=
  pairs.foldlM (fun row pair => row.write? pair.1 pair.2) row

/-- Whether columns have the values that they are compared with. Nothing equals null. -/
def hasAll (row : Row) (pairs : List (Column × Cell)) : Bool :=
  pairs.all fun pair => pair.2 ≠ .null && row.cell pair.1 == pair.2

end Row

/-- A statement that sets columns of the rows in which other columns have given values. -/
structure Statement where
  assigned : List Column
  compared : List Column
  values : List Cell

namespace Statement

def empty : Statement := ⟨[], [], []⟩

def assign (statement : Statement) (column : Column) (value : Cell) : Statement :=
  { statement with
    assigned := statement.assigned ++ [column]
    values := statement.values ++ [value] }

def assignIfSome {Value : Type} (statement : Statement) (column : Column)
    (cell : Value → Cell) : Option Value → Statement
  | some value => statement.assign column (cell value)
  | none => statement

def compare (statement : Statement) (column : Column) (value : Cell) : Statement :=
  { statement with
    compared := statement.compared ++ [column]
    values := statement.values ++ [value] }

/-- Sets the columns of the fields that an update carries, and the time. -/
def setFields (update : FieldUpdate) (now : Time.Instant) : Statement :=
  empty
    |>.assignIfSome .name .text update.name
    |>.assignIfSome .category .text update.category
    |>.assignIfSome .subject .text update.subject
    |>.assignIfSome .description .ofOption update.description
    |>.assignIfSome .blocks (fun blocks => .text (Row.blocksText blocks)) update.blocks
    |>.assignIfSome .visibility (fun visibility => .text visibility.name) update.visibility
    |>.assign .updatedAt (.text now.microsText)

/-- The statement of an update, of a document of a given owner or of any. -/
def ofUpdate (id : DocumentId) (owner : Option UserId) (update : FieldUpdate)
    (now : Time.Instant) : Statement :=
  let ofId := (setFields update now).compare .id (.text id.text)
  match owner with
  | some owner => ofId.compare .owner (.text owner.text)
  | none => ofId

/-- The columns to set, each with the value at its position. -/
def assignments (statement : Statement) : List (Column × Cell) :=
  statement.assigned.zip statement.values

/-- The columns to compare, whose values follow those of the columns to set. -/
def conditions (statement : Statement) : List (Column × Cell) :=
  statement.compared.zip (statement.values.drop statement.assigned.length)

/-- The rows after the statement, and how many it selected. It fails if it has more or fewer
values than placeholders, or if a column does not take its value. -/
def run? (statement : Statement) (rows : List Row) : Option (List Row × Nat) :=
  let selects (row : Row) : Bool := row.hasAll statement.conditions
  if statement.values.length = statement.assigned.length + statement.compared.length then
    (rows.mapM fun row =>
      if selects row then row.writeAll? statement.assignments else some row).map
      fun changed => (changed, rows.countP selects)
  else none

/-! ## Columns and values in step -/

/-- The values are those of given columns, in the order of their placeholders. -/
structure Binds (statement : Statement) (assignments conditions : List (Column × Cell)) :
    Prop where
  assigned : statement.assigned = assignments.map Prod.fst
  compared : statement.compared = conditions.map Prod.fst
  values : statement.values = assignments.map Prod.snd ++ conditions.map Prod.snd

section Binds

variable {statement : Statement} {assignments conditions : List (Column × Cell)}

theorem binds_empty : empty.Binds [] [] := ⟨rfl, rfl, rfl⟩

/-- Columns are set before the first is compared. -/
theorem Binds.assign (binds : statement.Binds assignments []) (column : Column)
    (value : Cell) :
    (statement.assign column value).Binds (assignments ++ [(column, value)]) [] := by
  obtain ⟨assigned, compared, values⟩ := binds
  constructor
  · simp [Statement.assign, assigned]
  · simp [Statement.assign, compared]
  · simp [Statement.assign, values]

theorem Binds.compare (binds : statement.Binds assignments conditions) (column : Column)
    (value : Cell) :
    (statement.compare column value).Binds assignments (conditions ++ [(column, value)]) := by
  obtain ⟨assigned, compared, values⟩ := binds
  constructor
  · simp [Statement.compare, assigned]
  · simp [Statement.compare, compared]
  · simp [Statement.compare, values]

theorem Binds.assignments_eq (binds : statement.Binds assignments conditions) :
    statement.assignments = assignments := by
  unfold Statement.assignments
  -- There are as many columns to set as values for them, so the other values are left over.
  rw [binds.assigned, binds.values, ← List.append_nil (assignments.map Prod.fst),
    List.zip_append (by simp), List.zip_nil_left, List.append_nil, List.zip_map']
  simp

theorem Binds.conditions_eq (binds : statement.Binds assignments conditions) :
    statement.conditions = conditions := by
  unfold Statement.conditions
  have before : statement.assigned.length = (assignments.map Prod.snd).length := by
    simp [binds.assigned]
  rw [before, binds.compared, binds.values, List.drop_left, List.zip_map']
  simp

theorem Binds.length_values (binds : statement.Binds assignments conditions) :
    statement.values.length = statement.assigned.length + statement.compared.length := by
  simp [binds.assigned, binds.compared, binds.values]

/-- A statement whose values are in step changes the rows that pass its comparisons. -/
theorem Binds.run?_eq (binds : statement.Binds assignments conditions)
    {selects : Row → Bool} {change : Row → Row}
    (tests : ∀ row, row.hasAll conditions = selects row)
    (writes : ∀ row, row.writeAll? assignments = some (change row)) (rows : List Row) :
    statement.run? rows =
      some (rows.map fun row => if selects row then change row else row,
        rows.countP selects) := by
  have each : (fun row => if selects row then some (change row) else some row) =
      fun row => pure (if selects row then change row else row) := by
    funext row
    split <;> rfl
  unfold run?
  simp only [binds.assignments_eq, binds.conditions_eq, binds.length_values, tests, writes,
    each, List.mapM_pure]
  rfl

end Binds

/-! ## The statement of an update -/

/-- A statement without comparisons that makes a given change of a row. -/
def Sets (statement : Statement) (change : Row → Row) : Prop :=
  ∃ assignments, statement.Binds assignments [] ∧
    ∀ row, row.writeAll? assignments = some (change row)

theorem sets_empty : empty.Sets id := ⟨[], binds_empty, fun _ => rfl⟩

section Sets

variable {statement : Statement} {change next : Row → Row}

theorem Sets.assign (sets : statement.Sets change) (column : Column) (value : Cell)
    (next : Row → Row) (written : ∀ row, row.write? column value = some (next row)) :
    (statement.assign column value).Sets (next ∘ change) := by
  obtain ⟨assignments, binds, writes⟩ := sets
  refine ⟨_, binds.assign column value, ?_⟩
  intro row
  have before := writes row
  unfold Row.writeAll? at before ⊢
  rw [List.foldlM_append, before]
  simp [written]

theorem Sets.assignIfSome {Value : Type} (sets : statement.Sets change) (column : Column)
    (cell : Value → Cell) (value : Option Value) (next : Row → Row)
    (written : ∀ row, (match value with
      | some given => row.write? column (cell given)
      | none => some row) = some (next row)) :
    (statement.assignIfSome column cell value).Sets (next ∘ change) := by
  cases value with
  | none =>
      have same : next ∘ change = change :=
        funext fun row => (Option.some.inj (written (change row))).symm
      rw [same]
      exact sets
  | some given => exact sets.assign column (cell given) next written

end Sets

theorem sets_setFields (update : FieldUpdate) (now : Time.Instant) :
    (setFields update now).Sets fun row => row.updated update now := by
  have name := sets_empty.assignIfSome .name .text update.name
    (fun row => { row with name := update.name.getD row.name })
    fun row => by cases update.name <;> rfl
  have category := name.assignIfSome .category .text update.category
    (fun row => { row with category := update.category.getD row.category })
    fun row => by cases update.category <;> rfl
  have subject := category.assignIfSome .subject .text update.subject
    (fun row => { row with subject := update.subject.getD row.subject })
    fun row => by cases update.subject <;> rfl
  have description := subject.assignIfSome .description .ofOption update.description
    (fun row => { row with description := update.description.getD row.description })
    fun row => by
      cases update.description with
      | none => rfl
      | some description => cases description <;> rfl
  have blocks := description.assignIfSome .blocks (fun blocks => .text (Row.blocksText blocks))
    update.blocks
    (fun row => { row with blocks := (update.blocks.map Row.blocksText).getD row.blocks })
    fun row => by cases update.blocks <;> rfl
  have visibility := blocks.assignIfSome .visibility (fun visibility => .text visibility.name)
    update.visibility
    (fun row =>
      { row with visibility := (update.visibility.map Visibility.name).getD row.visibility })
    fun row => by cases update.visibility <;> rfl
  exact visibility.assign .updatedAt (.text now.microsText)
    (fun row => { row with updatedAt := now.microsText }) fun _ => rfl

/-- What the statement of an update does to rows: it changes and counts those with the
identifier, of the given owner if there is one. -/
theorem run?_ofUpdate (id : DocumentId) (owner : Option UserId) (update : FieldUpdate)
    (now : Time.Instant) (rows : List Row) {selects : Row → Bool}
    (chosen : ∀ row, selects row =
      (row.id == id.text && owner.all fun owner => row.owner == owner.text)) :
    (ofUpdate id owner update now).run? rows =
      some (rows.map fun row => if selects row then row.updated update now else row,
        rows.countP selects) := by
  obtain ⟨assignments, binds, writes⟩ := sets_setFields update now
  have ofId := binds.compare .id (.text id.text)
  cases owner with
  | none =>
      refine ofId.run?_eq ?_ writes rows
      intro row
      simp [chosen, Row.hasAll, Row.cell]
  | some owner =>
      refine (ofId.compare .owner (.text owner.text)).run?_eq ?_ writes rows
      intro row
      rw [Bool.eq_iff_iff]
      simp [chosen, Row.hasAll, Row.cell]

end Statement

end BlockMail.Store
