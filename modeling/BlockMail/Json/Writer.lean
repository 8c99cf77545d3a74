import BlockMail.Json.Basic

/-!
# Written JSON

Two written forms of a value: compact, without any blank, and indented by two
blanks for each level of nesting. Strings escape the quotation mark, the
backslash and the control characters and keep every other character.
-/

set_option autoImplicit false

namespace BlockMail.Json

/-- A digit of base sixteen, in lower case. -/
def hexDigit (digit : Nat) : Char :=
  if digit < 10 then Char.ofNat (48 + digit) else Char.ofNat (87 + digit)

/-- One character inside a quoted string. -/
def escapeChar (char : Char) : List Char :=
  match char with
  | '"' => ['\\', '"']
  | '\\' => ['\\', '\\']
  | '\n' => ['\\', 'n']
  | '\r' => ['\\', 'r']
  | '\t' => ['\\', 't']
  | '\x08' => ['\\', 'b']
  | '\x0c' => ['\\', 'f']
  | other =>
      if other.toNat < 32 then
        ['\\', 'u', '0', '0', hexDigit (other.toNat / 16),
          hexDigit (other.toNat % 16)]
      else [other]

def quote (text : String) : String :=
  "\"" ++ String.ofList (text.toList.flatMap escapeChar) ++ "\""

mutual

/-- The written form without any blank. -/
def compact : Json → String
  | .null => "null"
  | .bool value => if value then "true" else "false"
  | .number value => value.text
  | .string value => quote value
  | .array items => "[" ++ compactItems items ++ "]"
  | .object members => "\x7b" ++ compactMembers members ++ "\x7d"

/-- Items separated by commas. -/
def compactItems : List Json → String
  | [] => ""
  | [item] => item.compact
  | item :: next :: rest => item.compact ++ "," ++ compactItems (next :: rest)

/-- Members separated by commas. -/
def compactMembers : List (String × Json) → String
  | [] => ""
  | [(name, value)] => quote name ++ ":" ++ value.compact
  | (name, value) :: next :: rest =>
      quote name ++ ":" ++ value.compact ++ "," ++ compactMembers (next :: rest)

end

/-- A line break followed by two blanks for each level. -/
def newline (depth : Nat) : String :=
  "\n" ++ String.ofList (List.replicate (2 * depth) ' ')

mutual

/-- The written form with one item or member a line; `depth` is the level of
the line the value starts on. -/
def indented (depth : Nat) : Json → String
  | .null => "null"
  | .bool value => if value then "true" else "false"
  | .number value => value.text
  | .string value => quote value
  | .array [] => "[]"
  | .array (item :: rest) =>
      "[" ++ indentedItems (depth + 1) (item :: rest) ++ newline depth ++ "]"
  | .object [] => "\x7b\x7d"
  | .object (member :: rest) =>
      "\x7b" ++ indentedMembers (depth + 1) (member :: rest) ++ newline depth ++
        "\x7d"

/-- Items, each on a line of its own. -/
def indentedItems (depth : Nat) : List Json → String
  | [] => ""
  | [item] => newline depth ++ item.indented depth
  | item :: next :: rest =>
      newline depth ++ item.indented depth ++ "," ++
        indentedItems depth (next :: rest)

/-- Members, each on a line of its own. -/
def indentedMembers (depth : Nat) : List (String × Json) → String
  | [] => ""
  | [(name, value)] =>
      newline depth ++ quote name ++ ": " ++ value.indented depth
  | (name, value) :: next :: rest =>
      newline depth ++ quote name ++ ": " ++ value.indented depth ++ "," ++
        indentedMembers depth (next :: rest)

end

/-- The written form over several lines, indented by two blanks a level. -/
def pretty (value : Json) : String := value.indented 0

end BlockMail.Json
