import BlockMail.Html.Declarations

/-!
# Nodes of a fragment

The elements that a block is rendered to. Attribute values are held as they are
meant and escaped when they are written; text is markup already and is written
as it is.
-/

set_option autoImplicit false

namespace BlockMail.Html

/-- A piece of markup. -/
inductive Node where
  | markup (text : String)
  | element (tag : String) (attributes : List (String × String))
      (children : List Node)
  | void (tag : String) (attributes : List (String × String))

/-- Attributes as written, each after a blank. -/
def attributesText (attributes : List (String × String)) : String :=
  String.join
    (attributes.map fun (name, value) =>
      " " ++ name ++ "=\"" ++ escapeAttribute value ++ "\"")

mutual

def Node.text : Node → String
  | .markup text => text
  | .element tag attributes children =>
      "<" ++ tag ++ attributesText attributes ++ ">" ++ nodesText children ++
        "</" ++ tag ++ ">"
  | .void tag attributes => "<" ++ tag ++ attributesText attributes ++ " />"

/-- Nodes as written, one after the other. -/
def nodesText : List Node → String
  | [] => ""
  | node :: rest => node.text ++ nodesText rest

end

end BlockMail.Html
