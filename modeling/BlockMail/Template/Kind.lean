import BlockMail.Decode.Simple

/-!
# Kinds of blocks

The six kinds of blocks that this library knows how to render.
-/

set_option autoImplicit false

namespace BlockMail

inductive BlockKind where
  | header
  | text
  | image
  | button
  | spacer
  | footer
deriving DecidableEq

namespace BlockKind

/-- All kinds, in the order in which a palette shows them. -/
def all : List BlockKind := [.header, .text, .image, .button, .spacer, .footer]

/-- The name of the kind in a block's `type`. -/
def name : BlockKind → String
  | .header => "header"
  | .text => "text"
  | .image => "image"
  | .button => "button"
  | .spacer => "spacer"
  | .footer => "footer"

def ofName? (name : String) : Option BlockKind :=
  all.find? fun kind => kind.name == name

/-- A kind is found by its own name. -/
theorem ofName?_name (kind : BlockKind) : ofName? kind.name = some kind := by
  cases kind <;> decide +kernel

variable {Source : Type} [Decode.Carrier Source]

def toJson (kind : BlockKind) : Json := .string kind.name

def decode : Decode.Decoder Source BlockKind :=
  Decode.choice (all.map name) ofName?

end BlockKind

end BlockMail
