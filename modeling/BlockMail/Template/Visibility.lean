import BlockMail.Decode.Simple

/-!
# Visibility

Whether anyone may read a template or only its owner.
-/

set_option autoImplicit false

namespace BlockMail

inductive Visibility where
  | everyone
  | ownerOnly
deriving DecidableEq

namespace Visibility

def name : Visibility → String
  | .everyone => "public"
  | .ownerOnly => "private"

def ofName? (name : String) : Option Visibility :=
  [Visibility.everyone, .ownerOnly].find? fun visibility => visibility.name == name

/-- The complaint about a name that no visibility has. -/
def unknownMessage (name : String) : String := "unknown visibility: " ++ name

variable {Source : Type} [Decode.Carrier Source]

def toJson (visibility : Visibility) : Json := .string visibility.name

def decode : Decode.Decoder Source Visibility :=
  Decode.choice ["public", "private"] ofName?

end Visibility

end BlockMail
