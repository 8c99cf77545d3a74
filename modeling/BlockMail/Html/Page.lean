import BlockMail.Html.Fragment

/-!
# Pages

The complete HTML of a mail: a fixed shell around the fragments of its blocks,
one a line. A page is written by a script of lines and changes of depth; run
with an indentation it is pretty, run without it is compact.
-/

set_option autoImplicit false

namespace BlockMail.Html

/-- How a page is written. The indentation only counts in a pretty page. -/
structure PageOptions where
  pretty : Bool
  indent : String
deriving DecidableEq

/-- Pretty, with two blanks for each level. -/
def PageOptions.default : PageOptions := ⟨true, "  "⟩

inductive Step where
  | line (text : String)
  | indent
  | dedent
deriving DecidableEq

/-- A line and the depth at which it stands. -/
structure Line where
  depth : Nat
  text : String
deriving DecidableEq

/-- The lines that steps write, from a given depth on. -/
def linesFrom (depth : Nat) : List Step → List Line
  | [] => []
  | .line text :: rest => ⟨depth, text⟩ :: linesFrom depth rest
  | .indent :: rest => linesFrom (depth + 1) rest
  | .dedent :: rest => linesFrom (depth - 1) rest

def Line.written (options : PageOptions) (line : Line) : String :=
  if options.pretty then
    String.join (List.replicate line.depth options.indent) ++ line.text ++ "\n"
  else line.text

/-- Lines as written, one after the other. -/
def writeLines (options : PageOptions) (lines : List Line) : String :=
  String.join (lines.map (Line.written options))

/-- The steps before the fragments. -/
def opening : List Step :=
  [.line "<!DOCTYPE html>",
    .line "<html lang=\"en\">", .indent,
    .line "<head>", .indent,
    .line "<meta charset=\"UTF-8\">",
    .line ("<meta name=\"viewport\" content=\"width=device-width, " ++
      "initial-scale=1.0\">"),
    .line ("<style>body \x7b margin: 0; padding: 0; font-family: sans-serif; " ++
      "\x7d</style>"),
    .dedent, .line "</head>",
    .line ("<body style=\"margin: 0; padding: 20px; " ++
      "background-color: #f3f4f6;\">"), .indent,
    .line ("<div style=\"max-width: 600px; margin: 0 auto; " ++
      "background-color: #ffffff; min-height: 100vh;\">"), .indent]

/-- The steps after the fragments. -/
def closing : List Step :=
  [.dedent, .line "</div>", .dedent, .line "</body>", .dedent, .line "</html>"]

/-- The steps of one block: its fragment on a line, unless it has none. -/
def blockSteps (context : Context) (block : Block) : List Step :=
  let fragment := renderBlock block context
  if fragment.isEmpty then [] else [.line fragment]

def pageSteps (blocks : List Block) (context : Context) : List Step :=
  opening ++ blocks.flatMap (blockSteps context) ++ closing

/-- The HTML of a list of blocks. Without blocks there is no page at all. -/
def page (blocks : List Block) (context : Context) (options : PageOptions) :
    String :=
  if blocks.isEmpty then ""
  else writeLines options (linesFrom 0 (pageSteps blocks context))

end BlockMail.Html
