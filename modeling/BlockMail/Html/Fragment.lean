import BlockMail.Html.Interpolation
import BlockMail.Html.Node
import BlockMail.Template.Block

/-!
# Fragments

The fragment of HTML that a block is rendered to. Titles, contents, labels and
footer lines are personalised; addresses, alternative texts and styles are not.
In the element that carries the style map its declarations come first and the
fixed rules of the kind after them. Content of an unknown type has no fragment.
-/

set_option autoImplicit false

namespace BlockMail.Html

/-- A style value as text, unless it is missing or empty. -/
def styleText? (style : StyleMap) (key : String) : Option String :=
  ((style.get? key).filter fun value => !value.isEmpty).map Scalar.toText

def styled (tag : String) (declarations : Declarations) (children : List Node) :
    Node :=
  .element tag [("style", declarations.text)] children

def shown? (text : Option String) : Option String :=
  text.filter fun value => !value.isEmpty

/-- Text with its placeholders replaced, as markup. -/
def personalised (text : String) (context : Context) : Node :=
  .markup (interpolate text context)

/-! ## Declarations by kind -/

def headerDeclarations (style : StyleMap) : Declarations :=
  (Declarations.ofStyle style).rules
    [("font-family", "sans-serif"), ("text-align", "center")]

def textDeclarations (style : StyleMap) : Declarations :=
  (Declarations.ofStyle style).rules
    [("font-family", "sans-serif"), ("line-height", "1.6")]

def imageDeclarations (style : StyleMap) : Declarations :=
  (Declarations.ofStyle style).rules
    [("max-width", "100%"), ("display", "block"), ("margin", "0 auto")]

/-- Whether the style asks for a button as wide as the mail. -/
def isFullWidth (style : StyleMap) : Bool :=
  decide ((style.get? "width").bind Scalar.asText? = some "full")

def buttonDeclarations (style : StyleMap) : Declarations :=
  ((Declarations.ofStyle style).rules
    (if isFullWidth style then
      [("display", "block"), ("width", "100%"), ("box-sizing", "border-box")]
    else [("display", "inline-block")])).rules
    [("text-decoration", "none"), ("padding", "12px 24px"),
      ("font-weight", "bold"), ("font-family", "sans-serif")]

def spacerHeight (style : StyleMap) : String :=
  (styleText? style "height").getD "20px"

def spacerDeclarations (style : StyleMap) : Declarations :=
  (Declarations.ofStyle style).rules [("height", spacerHeight style)]

def footerDeclarations (style : StyleMap) : Declarations :=
  (Declarations.ofStyle style).rules
    [("font-family", "sans-serif"), ("text-align", "center"),
      ("font-size", "12px")]

/-! ## Nodes by kind -/

def headerNode (title : String) (subtitle : Option String) (style : StyleMap)
    (context : Context) : Node :=
  let color := (styleText? style "textColor").getD "inherit"
  let heading := styled "h1"
    (Declarations.empty.rules
      [("margin", "0"), ("font-size", "28px"), ("font-weight", "bold"),
        ("color", color)])
    [personalised title context]
  let below :=
    match shown? subtitle with
    | none => []
    | some subtitle =>
        [styled "p"
          (Declarations.empty.rules
            [("margin", "8px 0 0 0"), ("opacity", "0.9"), ("color", color)])
          [personalised subtitle context]]
  styled "div" (headerDeclarations style) (heading :: below)

def textNode (content : String) (style : StyleMap) (context : Context) : Node :=
  styled "div" (textDeclarations style) [personalised content context]

/-- The alternative text of an image without one of its own. -/
def defaultAlt : String := "Image"

def imageNode (url : String) (alt : Option String) (style : StyleMap) : Node :=
  styled "div"
    (Declarations.empty.rules [("text-align", "center"), ("padding", "10px")])
    [.void "img"
      [("src", url), ("alt", (shown? alt).getD defaultAlt),
        ("style", (imageDeclarations style).text)]]

def buttonNode (label url : String) (style : StyleMap) (context : Context) :
    Node :=
  styled "div"
    (Declarations.empty.rules
      [("padding", "20px"),
        ("text-align", (styleText? style "align").getD "center")])
    [.element "a" [("href", url), ("style", (buttonDeclarations style).text)]
      [personalised label context]]

def spacerNode (style : StyleMap) : Node :=
  styled "div" (spacerDeclarations style) []

def footerNode (line : String) (style : StyleMap) (context : Context) : Node :=
  styled "div" (footerDeclarations style) [personalised line context]

/-- The node that a block is rendered to, if its type is known. -/
def blockNode? (block : Block) (context : Context) : Option Node :=
  match block.content with
  | .header title subtitle =>
      some (headerNode title subtitle block.style context)
  | .text content => some (textNode content block.style context)
  | .image url alt => some (imageNode url alt block.style)
  | .button label url => some (buttonNode label url block.style context)
  | .spacer => some (spacerNode block.style)
  | .footer line => some (footerNode line block.style context)
  | .foreign _ => none

/-- The fragment of a block; empty when its type is unknown. -/
def renderBlock (block : Block) (context : Context) : String :=
  match blockNode? block context with
  | some node => node.text
  | none => ""

end BlockMail.Html
