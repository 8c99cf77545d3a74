import BlockMail.Text.Percent
import BlockMail.Text.Split

/-!
# Routes

The resources of the interface by their paths, the methods that each admits, and
the decoding of the part of a path that is an identifier.
-/

set_option autoImplicit false

namespace BlockMail.Http

/-- A resource. Identifiers are as written in the path. -/
inductive Route where
  | health
  | templates
  | categories
  | template (id : List Char)
  | preview (id : List Char)
  | send
deriving DecidableEq

/-- The resource at the parts of a path. An identifier at the end of a path is
not empty, and the listing of categories goes before a template of that name. -/
def Route.ofParts? (parts : List (List Char)) : Option Route :=
  match parts.map String.ofList with
  | ["", ""] => some .health
  | ["", "api", "templates"] => some .templates
  | ["", "api", "templates", id] =>
      if id = "" then none
      else if id = "categories" then some .categories
      else some (.template id.toList)
  | ["", "api", "templates", id, "preview"] => some (.preview id.toList)
  | ["", "api", "email", "send"] => some .send
  | _ => none

def Route.ofPath? (path : List Char) : Option Route :=
  Route.ofParts? (Text.splitAt '/' path)

/-- What is asked of a resource. -/
inductive Action where
  | health
  | list
  | create
  | categories
  | fetch (id : List Char)
  | save (id : List Char)
  | delete (id : List Char)
  | preview (id : List Char)
  | send
deriving DecidableEq

/-- The action of a method on a resource, if the resource admits the method.
Asking for the head alone is asking for the whole. -/
def Route.action? (route : Route) (method : String) : Option Action :=
  let method := if method = "HEAD" then "GET" else method
  match route, method with
  | .health, "GET" => some .health
  | .templates, "GET" => some .list
  | .templates, "POST" => some .create
  | .categories, "GET" => some .categories
  | .template id, "GET" => some (.fetch id)
  | .template id, "PUT" => some (.save id)
  | .template id, "DELETE" => some (.delete id)
  | .preview id, "POST" => some (.preview id)
  | .send, "POST" => some .send
  | _, _ => none

/-- The identifier that a part of a path stands for; none when its bytes are no
text. -/
def identifier? (part : List Char) : Option String :=
  Text.ofUtf8? (Text.percentDecoded part)

end BlockMail.Http
