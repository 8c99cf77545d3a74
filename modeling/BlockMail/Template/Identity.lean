/-!
# Identifiers

Opaque names of stored documents and of the principals that own them.
-/

set_option autoImplicit false

namespace BlockMail

/-- Names a stored document. -/
structure DocumentId where
  text : String
deriving DecidableEq

/-- Names a verified principal. -/
structure UserId where
  text : String
deriving DecidableEq

/-- The principal of a request that names none. -/
def UserId.anonymous : UserId := ⟨"anonymous"⟩

end BlockMail
