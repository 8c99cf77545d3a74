import BlockMail.Template.Document

/-!
# Failures of a store

Why a call of a store fails, and the wording.
-/

set_option autoImplicit false

namespace BlockMail.Store

/-- What is wrong with the text in a column. -/
inductive CellFault where
  | visibility (name : String)
  | timestamp (fault : Time.TimestampFault)
deriving DecidableEq

def CellFault.message : CellFault → String
  | .visibility name => Visibility.unknownMessage name
  | .timestamp fault => fault.message

/-- Why a call fails. -/
inductive Failure where
  /-- The memory store holds a document with this identifier. -/
  | alreadyExists (id : DocumentId)
  /-- The table holds a row with the new row's key. -/
  | notUnique
  /-- A column of a row, counted in the selection, cannot be read. -/
  | unreadable (column : Nat) (fault : CellFault)
  | unavailable (reason : String)
deriving DecidableEq

namespace Failure

/-- The failure in words, without saying that it is one of the store. -/
def reason : Failure → String
  | .alreadyExists id => "template " ++ id.text ++ " already exists"
  | .notUnique => "UNIQUE constraint failed: templates.id"
  | .unreadable column fault =>
      "Conversion error from type Text at index: " ++ toString column ++ ", " ++
        fault.message
  | .unavailable reason => reason

def message (failure : Failure) : String :=
  "storage backend error: " ++ failure.reason

end Failure

end BlockMail.Store
