/-!
# Media types

Whether a content type says that a body is JSON: `application/json`, or a type
of the application family with the suffix `json`, with well-formed parameters.
-/

set_option autoImplicit false

namespace BlockMail.Http

/-- A character of a token in a header. -/
def isTokenChar (char : Char) : Bool :=
  char.isAlphanum || "!#$%&'*+-.^_`|~".toList.contains char

/-- A character that a readable header value may hold. -/
def isHeaderChar (char : Char) : Bool :=
  char == '\t' || (' ' ≤ char && char ≤ '~')

inductive ParameterState where
  /-- Before a parameter, where blanks are passed over. -/
  | before
  | name
  /-- At the start of a value. -/
  | value
  | token
  /-- Between quotes; an empty quoted value is not closed by a quote. -/
  | quoted (isEmpty : Bool)
  | afterQuotes

/-- Whether parameters are well formed, from a state on. -/
def areParameters (state : ParameterState) : List Char → Bool
  | [] =>
      match state with
      | .before | .value | .token | .afterQuotes => true
      | .name | .quoted _ => false
  | char :: rest =>
      match state with
      | .before =>
          if char = ' ' then areParameters .before rest
          else isTokenChar char && areParameters .name rest
      | .name =>
          if char = '=' then areParameters .value rest
          else isTokenChar char && areParameters .name rest
      | .value =>
          if char = '"' then areParameters (.quoted true) rest
          else isTokenChar char && areParameters .token rest
      | .token =>
          if char = ';' then areParameters .before rest
          else isTokenChar char && areParameters .token rest
      | .quoted isEmpty =>
          if char = '"' && !isEmpty then areParameters .afterQuotes rest
          else char != '\t' && areParameters (.quoted false) rest
      | .afterQuotes =>
          if char = ';' then areParameters .before rest
          else char == ' ' && areParameters .afterQuotes rest

/-- Tokens compared without regard to case. -/
def isToken (name : String) (text : List Char) : Bool :=
  text.map Char.toLower == name.toList

/-- Whether a subtype is JSON or has JSON as its suffix, which stands behind the
last plus sign. -/
def isJsonSubtype (subtype : List Char) : Bool :=
  let suffix := (subtype.reverse.takeWhile (· != '+')).reverse
  let before := subtype.take (subtype.length - suffix.length - 1)
  if before.isEmpty then isToken "json" subtype
  else isToken "json" before || isToken "json" suffix

/-- Whether a content type says that a body is JSON. -/
def isJsonType (contentType : String) : Bool :=
  let text := contentType.toList
  let family := text.takeWhile isTokenChar
  match text.drop family.length with
  | '/' :: rest =>
      let subtype := rest.takeWhile isTokenChar
      let parameters := rest.drop subtype.length
      text.all isHeaderChar && isToken "application" family &&
        isJsonSubtype subtype && !subtype.isEmpty &&
        match parameters with
        | [] => true
        | char :: rest => char == ';' && areParameters .before rest
  | _ => false

end BlockMail.Http
