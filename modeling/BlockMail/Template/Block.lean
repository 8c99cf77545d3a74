import BlockMail.Template.Kind
import BlockMail.Template.Scalar

/-!
# Blocks

A block is one visual unit of a mail: an identifier, content of some type, and a
style map. Content of a type that is not known keeps its data as it is, so such
a block survives decoding and encoding unchanged.
-/

set_option autoImplicit false

namespace BlockMail

/-- Content of a type outside of the known kinds, which is never without data. -/
structure ForeignContent where
  kind : String
  data : Json
  foreign : BlockKind.ofName? kind = none
  present : data.isNull = false

/-- The content of a block. Text content may hold a restricted subset of HTML;
the height of a spacer comes from its style. -/
inductive Content where
  | header (title : String) (subtitle : Option String)
  | text (content : String)
  | image (url : String) (alt : Option String)
  | button (label : String) (url : String)
  | spacer
  | footer (line : String)
  | foreign (content : ForeignContent)

namespace Content

def kind? : Content → Option BlockKind
  | .header _ _ => some .header
  | .text _ => some .text
  | .image _ _ => some .image
  | .button _ _ => some .button
  | .spacer => some .spacer
  | .footer _ => some .footer
  | .foreign _ => none

def typeName : Content → String
  | .header _ _ => BlockKind.header.name
  | .text _ => BlockKind.text.name
  | .image _ _ => BlockKind.image.name
  | .button _ _ => BlockKind.button.name
  | .spacer => BlockKind.spacer.name
  | .footer _ => BlockKind.footer.name
  | .foreign content => content.kind

/-- The data of the content as a JSON value. Optional fields without a value are
left out. -/
def toJson : Content → Json
  | .header title subtitle =>
      .object (("title", .string title) ::
        Json.memberIfSome "subtitle" .string subtitle)
  | .text content => .object [("content", .string content)]
  | .image url alt =>
      .object (("url", .string url) :: Json.memberIfSome "alt" .string alt)
  | .button label url =>
      .object [("label", .string label), ("url", .string url)]
  | .spacer => .emptyObject
  | .footer line => .object [("text", .string line)]
  | .foreign content => content.data

section Fields

variable {Source : Type} [Decode.Carrier Source]

open Decode Decode.Fields

def headerFields : Fields Source Content :=
  ((Fields.none Content.header).and (defaulted "title" "" Decode.text)).and
    (optional "subtitle" Decode.text)

def textFields : Fields Source Content :=
  (Fields.none Content.text).and (defaulted "content" "" Decode.text)

def imageFields : Fields Source Content :=
  ((Fields.none Content.image).and (defaulted "url" "" Decode.text)).and
    (optional "alt" Decode.text)

def buttonFields : Fields Source Content :=
  ((Fields.none Content.button).and (defaulted "label" "" Decode.text)).and
    (defaulted "url" "" Decode.text)

def footerFields : Fields Source Content :=
  (Fields.none Content.footer).and (defaulted "text" "" Decode.text)

end Fields

/-- Decodes the data of a known kind. The data of a spacer is not looked at. -/
def ofKnown (kind : BlockKind) (data : Json) : Except DecodeError Content :=
  match kind with
  | .header => headerFields.decode "HeaderData" data
  | .text => textFields.decode "TextData" data
  | .image => imageFields.decode "ImageData" data
  | .button => buttonFields.decode "ButtonData" data
  | .spacer => .ok .spacer
  | .footer => footerFields.decode "FooterData" data

/-- An empty object in place of `null`. -/
def dataOrEmpty : Json → Json
  | .null => .emptyObject
  | data => data

theorem isNull_dataOrEmpty (data : Json) : (dataOrEmpty data).isNull = false := by
  cases data <;> rfl

def ofParts (typeName : String) (data : Json) : Except DecodeError Content :=
  match known : BlockKind.ofName? typeName with
  | some kind => ofKnown kind (dataOrEmpty data)
  | none =>
      .ok (.foreign ⟨typeName, dataOrEmpty data, known, isNull_dataOrEmpty data⟩)

/-- The members of the data; none when the data is no object. -/
def dataMembers (content : Content) : List (String × Json) :=
  match content.toJson with
  | .object members => members
  | _ => []

/-- Sets one field of the data and decodes the result again. -/
def setField (content : Content) (key : String) (value : Json) :
    Except DecodeError Content :=
  ofParts content.typeName (.object (Keyed.put key value content.dataMembers))

end Content

/-- One visual unit of a mail. -/
structure Block where
  id : String
  content : Content
  style : StyleMap

namespace Block

def kind? (block : Block) : Option BlockKind := block.content.kind?

def toJson (block : Block) : Json :=
  .object
    [("id", .string block.id), ("type", .string block.content.typeName),
      ("data", block.content.toJson), ("style", block.style.toJson)]

/-- The four fields of a block before its data is decoded. -/
structure Raw where
  id : String
  typeName : String
  data : Json
  style : StyleMap

section Fields

variable {Source : Type} [Decode.Carrier Source]

open Decode Decode.Fields

def rawFields : Fields Source Raw :=
  ((((Fields.none Raw.mk).and (defaulted "id" "" Decode.text)).and
    (required "type" Decode.text)).and
    (defaulted "data" Json.null Decode.any)).and
    (defaulted "style" ByArrival.empty StyleMap.decode)

/-- The block with these fields, once its data is decoded. -/
def ofRaw (raw : Raw) : Except DecodeError Block := do
  let content ← Content.ofParts raw.typeName raw.data
  return ⟨raw.id, content, raw.style⟩

def decode : Decoder Source Block := fun source => do
  ofRaw (← rawFields.decode "RawBlock" source)

end Fields

/-- Sets one field of the data; the identifier and the style stay. -/
def setField (block : Block) (key : String) (value : Json) :
    Except DecodeError Block :=
  (block.content.setField key value).map fun content =>
    { block with content := content }

/-- Sets one style attribute, or removes it when there is no value. -/
def setStyle (block : Block) (key : String) (value : Option Scalar) : Block :=
  { block with
    style :=
      match value with
      | some value => block.style.insert key value
      | none => block.style.erase key }

end Block

end BlockMail
