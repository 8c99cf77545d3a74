import Mathlib.Algebra.Ring.Nat
import BlockMail.Html.Fragment
import BlockMail.Text.Replace

/-!
# Attributes of fragments

What a fragment is put together from: text of its kind, attribute values, which are
escaped, and personalised texts, which are not. No attribute value ends its attribute or
begins a tag, and each can be read back.
-/

set_option autoImplicit false

namespace BlockMail.Html

/-! ## Escapes -/

/-- The characters that are escaped in a value and the entities that they become. -/
def attributeEntities : List (Char × List Char) :=
  [('&', "&amp;".toList), ('<', "&lt;".toList), ('>', "&gt;".toList),
    ('"', "&quot;".toList), ('\'', "&#39;".toList)]

/-- The characters that could end a value or begin a tag. -/
def markupChars : List Char := ['"', '\'', '<', '>']

/-- Decodes entities from the left, after passing over the first `skip` characters. -/
def decodeFrom : (skip : Nat) → List Char → List Char
  | _, [] => []
  | skip + 1, _ :: rest => decodeFrom skip rest
  | 0, char :: rest =>
      match attributeEntities.find? fun entity => entity.2.isPrefixOf (char :: rest) with
      | some entity => entity.1 :: decodeFrom (entity.2.length - 1) rest
      | none => char :: decodeFrom 0 rest

/-- A value with its entities decoded. -/
def decodeValue (written : List Char) : List Char := decodeFrom 0 written

theorem escapeChar_cases (char : Char) :
    (char, escapeChar char) ∈ attributeEntities ∨
      (∀ entity ∈ attributeEntities, char ≠ entity.1) ∧ escapeChar char = [char] := by
  unfold escapeChar
  split
  case h_6 ampersand less greater quote apostrophe =>
    refine .inr ⟨?_, rfl⟩
    simp only [attributeEntities, List.forall_mem_cons]
    exact ⟨ampersand, less, greater, quote, apostrophe, fun _ member => nomatch member⟩
  all_goals exact .inl (by decide)

theorem replaceAll_single (char : Char) (replacement text : List Char) :
    Text.replaceAll [char] replacement text =
      text.flatMap fun other => if other = char then replacement else [other] := by
  unfold Text.replaceAll
  induction text with
  | nil => rfl
  | cons first rest ih =>
      by_cases same : first = char
      · simp [Text.replaceFrom, same, ih]
      · simp [Text.replaceFrom, same, Ne.symm same, ih]

/-- A text with one character after the other replaced wherever it stands. -/
def replacedInTurn (entities : List (Char × List Char)) (text : List Char) : List Char :=
  entities.foldl (fun text entity => Text.replaceAll [entity.1] entity.2 text) text

theorem replacedInTurn_flatMap (entities : List (Char × List Char)) (text : List Char) :
    replacedInTurn entities text =
      text.flatMap fun char => replacedInTurn entities [char] := by
  induction entities generalizing text with
  | nil => exact (List.flatMap_singleton' text).symm
  | cons entity rest ih =>
      have step (text : List Char) : replacedInTurn (entity :: rest) text =
          replacedInTurn rest (Text.replaceAll [entity.1] entity.2 text) := rfl
      rw [step, ih, replaceAll_single, List.flatMap_assoc]
      congr 1
      funext char
      rw [step, ih, replaceAll_single, List.flatMap_singleton]

theorem replacedInTurn_absent {entities : List (Char × List Char)} {char : Char}
    (absent : ∀ entity ∈ entities, char ≠ entity.1) :
    replacedInTurn entities [char] = [char] := by
  induction entities with
  | nil => rfl
  | cons entity rest ih =>
      obtain ⟨other, absent⟩ := List.forall_mem_cons.1 absent
      unfold replacedInTurn
      rw [List.foldl_cons, replaceAll_single, List.flatMap_singleton, if_neg other]
      exact ih absent

/-- Escaping character by character is replacing the characters in turn. The ampersand
goes first, as every replacement writes one. -/
theorem escape_eq_replacedInTurn (raw : List Char) :
    raw.flatMap escapeChar = replacedInTurn attributeEntities raw := by
  rw [replacedInTurn_flatMap]
  congr 1
  funext char
  rcases escapeChar_cases char with escaped | ⟨plain, same⟩
  · have replaced : ∀ entity ∈ attributeEntities,
        replacedInTurn attributeEntities [entity.1] = entity.2 := by decide
    exact (replaced _ escaped).symm
  · rw [same, replacedInTurn_absent plain]

theorem not_mem_escape {char : Char} (markup : char ∈ markupChars) (raw : List Char) :
    char ∉ raw.flatMap escapeChar := by
  intro member
  obtain ⟨source, _, written⟩ := List.mem_flatMap.1 member
  rcases escapeChar_cases source with escaped | ⟨plain, same⟩
  · have clean : ∀ entity ∈ attributeEntities, ∀ char ∈ markupChars, char ∉ entity.2 := by
      simp [attributeEntities, markupChars]
    exact clean _ escaped char markup written
  · have special : ∀ char ∈ markupChars, ∃ entity ∈ attributeEntities, char = entity.1 := by
      simp [attributeEntities, markupChars]
    obtain ⟨entity, known, equal⟩ := special char markup
    rw [same, List.mem_singleton] at written
    exact plain entity known (written.symm.trans equal)

theorem suffix_of_absent {char : Char} {first after rest : List Char} (absent : char ∉ first)
    (suffix : char :: after <:+ first ++ rest) : char :: after <:+ rest := by
  induction first with
  | nil => exact suffix
  | cons other first ih =>
      obtain ⟨different, absent⟩ := List.ne_and_not_mem_of_not_mem_cons absent
      rcases List.suffix_cons_iff.1 suffix with whole | later
      · exact absurd (List.cons.inj whole).1 different
      · exact ih absent later

theorem entity_of_ampersand {raw after : List Char}
    (suffix : '&' :: after <:+ raw.flatMap escapeChar) :
    ∃ entity ∈ attributeEntities, entity.2 <+: '&' :: after := by
  induction raw with
  | nil => cases List.suffix_nil.1 suffix
  | cons char raw ih =>
      rw [List.flatMap_cons] at suffix
      rcases escapeChar_cases char with escaped | ⟨plain, same⟩
      · have shape : ∀ entity ∈ attributeEntities,
            entity.2 = '&' :: entity.2.tail ∧ '&' ∉ entity.2.tail := by decide
        obtain ⟨front, absent⟩ := shape _ escaped
        dsimp only at front absent
        -- The ampersand is the one that the entity begins with, or comes after the entity.
        rw [front, List.cons_append] at suffix
        rcases List.suffix_cons_iff.1 suffix with whole | later
        · refine ⟨_, escaped, List.flatMap escapeChar raw, ?_⟩
          dsimp only
          rw [whole, front]
          rfl
        · exact ih (suffix_of_absent absent later)
      · have absent : '&' ∉ escapeChar char := by
          rw [same, List.mem_singleton]
          exact (plain ('&', _) List.mem_cons_self).symm
        exact ih (suffix_of_absent absent suffix)

theorem decodeValue_entity : ∀ entity ∈ attributeEntities, ∀ rest,
    decodeValue (entity.2 ++ rest) = entity.1 :: decodeValue rest := by
  simp only [attributeEntities, List.forall_mem_cons]
  exact ⟨fun _ => rfl, fun _ => rfl, fun _ => rfl, fun _ => rfl, fun _ => rfl,
    fun _ member => nomatch member⟩

theorem decodeValue_cons {char : Char} (plain : char ≠ '&') (rest : List Char) :
    decodeValue (char :: rest) = char :: decodeValue rest := by
  have front : ∀ entity ∈ attributeEntities, entity.2.head? = some '&' := by decide
  have nothing : (attributeEntities.find? fun entity =>
      entity.2.isPrefixOf (char :: rest)) = none := by
    rw [List.find?_eq_none]
    intro entity known begins
    obtain ⟨after, written⟩ := List.isPrefixOf_iff_prefix.1 begins
    have first := front entity known
    rw [List.head?_eq_some_iff] at first
    obtain ⟨name, shape⟩ := first
    rw [shape] at written
    exact plain (List.cons.inj written).1.symm
  unfold decodeValue
  rw [decodeFrom, nothing]

theorem decodeValue_escape (raw : List Char) :
    decodeValue (raw.flatMap escapeChar) = raw := by
  induction raw with
  | nil => rfl
  | cons char raw ih =>
      rw [List.flatMap_cons]
      rcases escapeChar_cases char with escaped | ⟨plain, same⟩
      · rw [decodeValue_entity _ escaped, ih]
      · rw [same, List.singleton_append,
          decodeValue_cons (plain ('&', _) List.mem_cons_self), ih]

/-- How a value stands in an attribute: it neither ends the attribute nor begins a tag, and
gives back what it was made of. -/
structure Enclosed (raw written : String) : Prop where
  replaced : written.toList = replacedInTurn attributeEntities raw.toList
  closed : ∀ char ∈ markupChars, char ∉ written.toList
  entities : ∀ after, '&' :: after <:+ written.toList →
    ∃ entity ∈ attributeEntities, entity.2 <+: '&' :: after
  decoded : decodeValue written.toList = raw.toList

theorem enclosed_escapeAttribute (raw : String) : Enclosed raw (escapeAttribute raw) := by
  have chars : (escapeAttribute raw).toList = raw.toList.flatMap escapeChar :=
    String.toList_ofList
  constructor
  · rw [chars, escape_eq_replacedInTurn]
  · intro char markup
    rw [chars]
    exact not_mem_escape markup raw.toList
  · intro after suffix
    rw [chars] at suffix
    exact entity_of_ampersand suffix
  · rw [chars, decodeValue_escape]

/-! ## Parts of a fragment -/

/-- A part of the text of a fragment: text of the fragment's kind, an attribute with the
value that is meant, or a personalised text of the block. -/
inductive Part where
  | fixed (text : String)
  | value (name raw : String)
  | words (text : String)
deriving DecidableEq

namespace Part

def written : Part → String
  | .fixed text => text
  | .value name raw => " " ++ name ++ "=\"" ++ escapeAttribute raw ++ "\""
  | .words text => text

/-- The part without what a block puts in. -/
def blank : Part → Part
  | .fixed text => .fixed text
  | .value name _ => .value name ""
  | .words _ => .words ""

def value? : Part → Option (String × String)
  | .value name raw => some (name, raw)
  | _ => none

def words? : Part → Option String
  | .words text => some text
  | _ => none

end Part

def writtenParts (parts : List Part) : String := String.join (parts.map Part.written)

def valueParts (attributes : List (String × String)) : List Part :=
  attributes.map fun (name, raw) => .value name raw

mutual

def Node.parts : Node → List Part
  | .markup text => [.words text]
  | .element tag attributes children =>
      .fixed ("<" ++ tag) :: valueParts attributes ++ .fixed ">" :: nodesParts children ++
        [.fixed ("</" ++ tag ++ ">")]
  | .void tag attributes =>
      .fixed ("<" ++ tag) :: valueParts attributes ++ [.fixed " />"]

def nodesParts : List Node → List Part
  | [] => []
  | node :: rest => node.parts ++ nodesParts rest

end

theorem writtenParts_cons (part : Part) (parts : List Part) :
    writtenParts (part :: parts) = part.written ++ writtenParts parts := by
  simp only [writtenParts, List.map_cons, String.join_cons]

theorem writtenParts_append (parts others : List Part) :
    writtenParts (parts ++ others) = writtenParts parts ++ writtenParts others := by
  simp only [writtenParts, List.map_append, String.join_append]

theorem attributesText_eq (attributes : List (String × String)) :
    attributesText attributes = writtenParts (valueParts attributes) := by
  simp only [attributesText, writtenParts, valueParts, List.map_map]
  rfl

mutual

theorem Node.text_eq (node : Node) : node.text = writtenParts node.parts := by
  cases node with
  | markup text => simp [Node.text, Node.parts, writtenParts, Part.written]
  | element tag attributes children =>
      have inside := nodesText_eq children
      simp [Node.text, Node.parts, attributesText_eq, inside, writtenParts, Part.written,
        String.append_assoc]
  | void tag attributes =>
      simp [Node.text, Node.parts, attributesText_eq, writtenParts, Part.written,
        String.append_assoc]

theorem nodesText_eq (nodes : List Node) : nodesText nodes = writtenParts (nodesParts nodes) := by
  cases nodes with
  | nil => rfl
  | cons node rest =>
      rw [nodesText, nodesParts, writtenParts_append, Node.text_eq node, nodesText_eq rest]

end

/-- The parts of the fragment of a block. -/
def fragmentParts (block : Block) (context : Context) : List Part :=
  match blockNode? block context with
  | some node => node.parts
  | none => []

theorem renderBlock_eq (block : Block) (context : Context) :
    renderBlock block context = writtenParts (fragmentParts block context) := by
  unfold renderBlock fragmentParts
  cases blockNode? block context with
  | some node => exact node.text_eq
  | none => rfl

/-- The attributes of the fragment of a block in order, with the values that are meant. -/
def fragmentValues (content : Content) (style : StyleMap) : List (String × String) :=
  let color := (styleText? style "textColor").getD "inherit"
  match content with
  | .header _ subtitle =>
      [("style", (headerDeclarations style).text),
        ("style", (Declarations.mk [("margin", "0"), ("font-size", "28px"),
          ("font-weight", "bold"), ("color", color)]).text)] ++
      ((shown? subtitle).map fun _ =>
        ("style", (Declarations.mk [("margin", "8px 0 0 0"), ("opacity", "0.9"),
          ("color", color)]).text)).toList
  | .text _ => [("style", (textDeclarations style).text)]
  | .image url alt =>
      [("style", (Declarations.mk [("text-align", "center"), ("padding", "10px")]).text),
        ("src", url), ("alt", (shown? alt).getD defaultAlt),
        ("style", (imageDeclarations style).text)]
  | .button _ url =>
      [("style", (Declarations.mk [("padding", "20px"),
          ("text-align", (styleText? style "align").getD "center")]).text),
        ("href", url), ("style", (buttonDeclarations style).text)]
  | .spacer => [("style", (spacerDeclarations style).text)]
  | .footer _ => [("style", (footerDeclarations style).text)]
  | .foreign _ => []

/-- The texts of a block that are personalised and then written as they are. -/
def openTexts : Content → List String
  | .header title subtitle => title :: (shown? subtitle).toList
  | .text content => [content]
  | .button label _ => [label]
  | .footer line => [line]
  | .image _ _ | .spacer | .foreign _ => []

theorem openTexts_eq_nil {block : Block}
    (kind : block.kind? = some .image ∨ block.kind? = some .spacer) :
    openTexts block.content = [] := by
  obtain ⟨id, content, style⟩ := block
  cases content with
  | image | spacer => rfl
  | _ => rcases kind with kind | kind <;> cases kind

theorem values_of_fragment (block : Block) (context : Context) :
    (fragmentParts block context).filterMap Part.value? =
      fragmentValues block.content block.style := by
  obtain ⟨id, content, style⟩ := block
  cases content with
  | header title subtitle =>
      simp only [fragmentParts, blockNode?, headerNode, fragmentValues]
      cases shown? subtitle <;> rfl
  | _ => rfl

theorem words_of_fragment (block : Block) (context : Context) :
    (fragmentParts block context).filterMap Part.words? =
      (openTexts block.content).map (interpolate · context) := by
  obtain ⟨id, content, style⟩ := block
  cases content with
  | header title subtitle =>
      simp only [fragmentParts, blockNode?, headerNode, openTexts]
      cases shown? subtitle <;> rfl
  | _ => rfl

def blankElement (tag : String) (names : List String) (inside : List Part) : List Part :=
  .fixed ("<" ++ tag) :: names.map (Part.value · "") ++ .fixed ">" :: inside ++
    [.fixed ("</" ++ tag ++ ">")]

/-- The fragment of a block of a kind with a number of texts, without what the block puts
in. -/
def outline : Option BlockKind → (texts : Nat) → List Part
  | some .header, texts =>
      blankElement "div" ["style"]
        (blankElement "h1" ["style"] [.words ""] ++
          if texts = 2 then blankElement "p" ["style"] [.words ""] else [])
  | some .text, _ | some .footer, _ => blankElement "div" ["style"] [.words ""]
  | some .image, _ =>
      blankElement "div" ["style"]
        (.fixed ("<" ++ "img") :: ["src", "alt", "style"].map (Part.value · "") ++
          [.fixed " />"])
  | some .button, _ =>
      blankElement "div" ["style"] (blankElement "a" ["href", "style"] [.words ""])
  | some .spacer, _ => blankElement "div" ["style"] []
  | none, _ => []

theorem blank_fragment (block : Block) (context : Context) :
    (fragmentParts block context).map Part.blank =
      outline block.kind? (openTexts block.content).length := by
  obtain ⟨id, content, style⟩ := block
  cases content with
  | header title subtitle =>
      simp only [fragmentParts, blockNode?, headerNode, openTexts]
      cases shown? subtitle <;> rfl
  | _ => rfl

theorem count_value {char : Char} (markup : char ∈ markupChars) (name raw : String) :
    (Part.value name raw).written.toList.count char =
      (Part.value name "").written.toList.count char := by
  have none (raw : String) : (escapeAttribute raw).toList.count char = 0 :=
    List.count_eq_zero.2 ((enclosed_escapeAttribute raw).closed char markup)
  simp only [Part.written, String.toList_append, List.count_append, none]

/-- Whatever could end a value or begin a tag comes from the kind of the fragment or from a
personalised text. -/
theorem count_written {char : Char} (markup : char ∈ markupChars) (parts : List Part) :
    (writtenParts parts).toList.count char =
      (writtenParts (parts.map Part.blank)).toList.count char +
        ((parts.filterMap Part.words?).map fun text => text.toList.count char).sum := by
  induction parts with
  | nil => rfl
  | cons part rest ih =>
      simp only [List.map_cons, writtenParts_cons, String.toList_append, List.count_append, ih]
      cases part with
      | fixed text =>
          simp only [Part.blank, List.filterMap_cons, Part.words?]
          omega
      | value name raw =>
          simp only [Part.blank, List.filterMap_cons, Part.words?, count_value markup name raw]
          omega
      | words text =>
          have nothing : "".toList.count char = 0 := rfl
          simp only [Part.blank, List.filterMap_cons, Part.words?, List.map_cons, List.sum_cons,
            Part.written, nothing]
          omega

theorem count_fragment {char : Char} (markup : char ∈ markupChars) (block : Block)
    (context : Context) :
    (renderBlock block context).toList.count char =
      (writtenParts (outline block.kind? (openTexts block.content).length)).toList.count char +
        ((openTexts block.content).map fun text =>
          (interpolate text context).toList.count char).sum := by
  rw [renderBlock_eq, count_written markup, blank_fragment, words_of_fragment, List.map_map]
  rfl

theorem count_wordless {char : Char} (markup : char ∈ markupChars) {block : Block}
    {kind : BlockKind} (known : block.kind? = some kind)
    (wordless : kind = .image ∨ kind = .spacer) (context : Context) :
    (renderBlock block context).toList.count char =
      (writtenParts (outline kind 0)).toList.count char := by
  have none : openTexts block.content = [] := openTexts_eq_nil <| by
    rcases wordless with rfl | rfl
    · exact .inl known
    · exact .inr known
  rw [count_fragment markup, known, none]
  rfl

/-- The fragment of a block is made of text that hangs on its kind and the number of its
texts, of attributes whose values stay enclosed, and of its personalised texts. So only
these texts can add markup: not an attribute, and no style. -/
theorem attributes_stay_enclosed (block : Block) (context : Context) :
    renderBlock block context = writtenParts (fragmentParts block context) ∧
    (fragmentParts block context).map Part.blank =
      outline block.kind? (openTexts block.content).length ∧
    (fragmentParts block context).filterMap Part.value? =
      fragmentValues block.content block.style ∧
    (fragmentParts block context).filterMap Part.words? =
      (openTexts block.content).map (interpolate · context) ∧
    (∀ value ∈ fragmentValues block.content block.style,
      Enclosed value.2 (escapeAttribute value.2)) ∧
    (∀ char ∈ markupChars,
      (renderBlock block context).toList.count char =
        (writtenParts (outline block.kind? (openTexts block.content).length)).toList.count
            char +
          ((openTexts block.content).map fun text =>
            (interpolate text context).toList.count char).sum) ∧
    (∀ style, ∀ char ∈ markupChars,
      (renderBlock { block with style := style } context).toList.count char =
        (renderBlock block context).toList.count char) ∧
    (block.kind? = some .image → (renderBlock block context).toList.count '<' = 3) ∧
    (block.kind? = some .spacer → (renderBlock block context).toList.count '<' = 2) := by
  refine ⟨renderBlock_eq block context, blank_fragment block context,
    values_of_fragment block context, words_of_fragment block context, ?_, ?_, ?_, ?_, ?_⟩
  · intro value _
    exact enclosed_escapeAttribute value.2
  · intro char markup
    exact count_fragment markup block context
  · intro style char markup
    rw [count_fragment markup, count_fragment markup]
    rfl
  · intro kind
    rw [count_wordless (by decide) kind (.inl rfl)]
    decide +kernel
  · intro kind
    rw [count_wordless (by decide) kind (.inr rfl)]
    decide +kernel

/-- An image whose address and style try to leave their attributes, and a spacer whose
height does. -/
theorem attributes_stay_enclosed_of_image :
    let url := "\"><script>&lt;"
    let style : StyleMap := .ofList [("height", .text "'><b>")]
    let image : Block := ⟨"i", .image url none, style⟩
    let spacer : Block := ⟨"s", .spacer, style⟩
    escapeAttribute url = "&quot;&gt;&lt;script&gt;&amp;lt;" ∧
      Enclosed url (escapeAttribute url) ∧
      (renderBlock image .empty).toList.count '<' = 3 ∧
      (renderBlock spacer .empty).toList.count '<' = 2 ∧
      (renderBlock { spacer with style := .empty } .empty).toList.count '"' =
        (renderBlock spacer .empty).toList.count '"' := by
  intro url style image spacer
  obtain ⟨_, _, _, _, enclosed, _, _, three, _⟩ := attributes_stay_enclosed image .empty
  obtain ⟨_, _, _, _, _, _, styles, _, two⟩ := attributes_stay_enclosed spacer .empty
  have address : ("src", url) ∈ fragmentValues image.content image.style :=
    List.mem_cons_of_mem _ List.mem_cons_self
  refine ⟨by decide +kernel, enclosed _ address, three rfl, two rfl, ?_⟩
  exact styles .empty '"' (by decide)

end BlockMail.Html
