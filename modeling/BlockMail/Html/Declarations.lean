import BlockMail.Template.Scalar

/-!
# Declarations of an inline style

The declarations of one `style` attribute, in order. The attributes of a block's
style map come first and fixed rules after them; within one attribute the later
declaration of a property wins, so fixed rules override the style map.
-/

set_option autoImplicit false

namespace BlockMail.Html

/-- One character of a property name: a capital letter becomes a hyphen and the
small letter. -/
def propertyChar (char : Char) : List Char :=
  if char.isUpper then ['-', char.toLower] else [char]

/-- The property that a key of a style map stands for. Only ASCII letters are
converted. -/
def propertyOfKey (key : String) : String :=
  String.ofList (key.toList.flatMap propertyChar)

/-- The escape of one character inside a quoted attribute value. -/
def escapeChar : Char → List Char
  | '&' => "&amp;".toList
  | '<' => "&lt;".toList
  | '>' => "&gt;".toList
  | '"' => "&quot;".toList
  | '\'' => "&#39;".toList
  | other => [other]

/-- A text as it is written inside a quoted attribute value. -/
def escapeAttribute (text : String) : String :=
  String.ofList (text.toList.flatMap escapeChar)

/-- Properties and their values, in order. -/
structure Declarations where
  entries : List (String × String)
deriving DecidableEq

namespace Declarations

def empty : Declarations := ⟨[]⟩

/-- The declarations of a style map, in authoring order. -/
def ofStyle (style : StyleMap) : Declarations :=
  ⟨style.entries.map fun (key, value) => (propertyOfKey key, value.toText)⟩

/-- Appends fixed rules. -/
def rules (declarations : Declarations) (fixed : List (String × String)) :
    Declarations :=
  ⟨declarations.entries ++ fixed⟩

/-- The value that is in effect for a property: that of its last declaration. -/
def effective? (declarations : Declarations) (property : String) :
    Option String :=
  (declarations.entries.reverse.find? fun entry => entry.1 == property).map
    Prod.snd

def isEmpty (declarations : Declarations) : Bool := declarations.entries.isEmpty

/-- The declarations as they stand in a style, before they are escaped. -/
def text (declarations : Declarations) : String :=
  " ".intercalate
    (declarations.entries.map fun (property, value) =>
      property ++ ": " ++ value ++ ";")

/-- The declarations as the value of a quoted attribute. -/
def attributeText (declarations : Declarations) : String :=
  escapeAttribute declarations.text

end Declarations

end BlockMail.Html
