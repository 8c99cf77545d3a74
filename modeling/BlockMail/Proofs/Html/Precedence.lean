import BlockMail.Proofs.Html.Attributes
import BlockMail.Proofs.Keyed.Lookup

/-!
# Style precedence

One attribute of a fragment carries the style map of its block. Its declarations are the
entries of the map, in authoring order, and the fixed rules of the kind behind them, so a
fixed rule is in effect for every property that the kind declares and the last entry that
stands for it for any other.
-/

set_option autoImplicit false

namespace BlockMail.Html

/-! ## Declarations in effect -/

namespace Declarations

theorem find?_reverse_of_distinct {rules : List (String × String)}
    (distinct : (rules.map Prod.fst).Nodup) (property : String) :
    rules.reverse.find? (fun rule => rule.1 == property) =
      rules.find? fun rule => rule.1 == property := by
  cases found : rules.find? fun rule => rule.1 == property with
  | none =>
      rw [List.find?_eq_none] at found ⊢
      exact fun rule member => found rule (List.mem_reverse.1 member)
  | some rule =>
      have named : rule.1 = property := by simpa using List.find?_some found
      have inReverse := List.mem_reverse.2 (List.mem_of_find?_eq_some found)
      have distinctReverse : (rules.reverse.map Prod.fst).Nodup :=
        ((List.reverse_perm rules).map Prod.fst).nodup_iff.2 distinct
      rw [← named]
      exact Keyed.find?_key_of_mem Prod.fst distinctReverse inReverse

/-- Rules that declare no property twice are in effect for the properties they declare. -/
theorem effective?_rules (declarations : Declarations) {fixed : List (String × String)}
    (distinct : (fixed.map Prod.fst).Nodup) (property : String) :
    (declarations.rules fixed).effective? property =
      (Keyed.lookup property fixed).or (declarations.effective? property) := by
  unfold effective? rules
  rw [List.reverse_append, List.find?_append, find?_reverse_of_distinct distinct,
    Keyed.lookup_eq_find?]
  cases fixed.find? fun rule => rule.1 == property <;> rfl

/-- The text of the last entry of a style map that stands for a property. -/
def lastEntry? (style : StyleMap) (property : String) : Option String :=
  ((style.entries.filter fun entry => propertyOfKey entry.1 == property).getLast?).map
    fun entry => entry.2.toText

theorem effective?_ofStyle (style : StyleMap) (property : String) :
    (ofStyle style).effective? property = lastEntry? style property := by
  unfold effective? ofStyle lastEntry?
  rw [← List.map_reverse, List.find?_map, Option.map_map, List.getLast?_eq_head?_reverse,
    ← List.filter_reverse, List.head?_filter]
  rfl

end Declarations

/-! ## Rules by kind -/

/-- The declarations of the attribute that carries the style map. -/
def styleDeclarations : BlockKind → StyleMap → Declarations
  | .header => headerDeclarations
  | .text => textDeclarations
  | .image => imageDeclarations
  | .button => buttonDeclarations
  | .spacer => spacerDeclarations
  | .footer => footerDeclarations

/-- The rules of a kind. A button is as wide as the mail if its style has the string "full"
as its width, and a spacer as high as its style says, if that is not empty. -/
def fixedRules (kind : BlockKind) (style : StyleMap) : List (String × String) :=
  match kind with
  | .header => [("font-family", "sans-serif"), ("text-align", "center")]
  | .text => [("font-family", "sans-serif"), ("line-height", "1.6")]
  | .image => [("max-width", "100%"), ("display", "block"), ("margin", "0 auto")]
  | .button =>
      (if style.get? "width" = some (.text "full") then
        [("display", "block"), ("width", "100%"), ("box-sizing", "border-box")]
      else [("display", "inline-block")]) ++
      [("text-decoration", "none"), ("padding", "12px 24px"), ("font-weight", "bold"),
        ("font-family", "sans-serif")]
  | .spacer =>
      match style.get? "height" with
      | some height => [("height", if height.isEmpty then "20px" else height.toText)]
      | none => [("height", "20px")]
  | .footer => [("font-family", "sans-serif"), ("text-align", "center"), ("font-size", "12px")]

theorem isFullWidth_iff {style : StyleMap} :
    isFullWidth style = true ↔ style.get? "width" = some (.text "full") := by
  unfold isFullWidth
  rw [decide_eq_true_iff]
  cases style.get? "width" with
  | none => simp
  | some value => cases value <;> simp [Scalar.asText?]

theorem spacerHeight_eq (style : StyleMap) :
    [("height", spacerHeight style)] = fixedRules .spacer style := by
  unfold spacerHeight styleText? fixedRules
  cases style.get? "height" with
  | none => rfl
  | some height => cases empty : height.isEmpty <;> simp [Option.filter_some, empty]

theorem styleDeclarations_eq (kind : BlockKind) (style : StyleMap) :
    styleDeclarations kind style =
      (Declarations.ofStyle style).rules (fixedRules kind style) := by
  cases kind with
  | header | text | image | footer => rfl
  | button =>
      simp only [styleDeclarations, buttonDeclarations, isFullWidth_iff, fixedRules,
        Declarations.rules, List.append_assoc]
  | spacer => rw [← spacerHeight_eq]; rfl

theorem nodup_fixedRules (kind : BlockKind) (style : StyleMap) :
    ((fixedRules kind style).map Prod.fst).Nodup := by
  cases kind with
  | header | text | image | footer => simp [fixedRules]
  | button =>
      simp only [fixedRules]
      split <;> simp
  | spacer =>
      rw [← spacerHeight_eq]
      simp

/-- A button has these rules only if it is as wide as the mail. -/
theorem lookup_fixedRules_button {property : String}
    (wide : property = "width" ∨ property = "box-sizing") (style : StyleMap) :
    (Keyed.lookup property (fixedRules .button style)).isSome = true ↔
      style.get? "width" = some (.text "full") := by
  by_cases full : style.get? "width" = some (.text "full")
  · rcases wide with rfl | rfl <;> simp [fixedRules, full, Keyed.lookup]
  · rcases wide with rfl | rfl <;> simp [fixedRules, full, Keyed.lookup]

/-! ## Fragments -/

/-- What a fragment begins with, up to the attribute that carries the style map. Images and
buttons stand in an element of their own. -/
def beforeStyle (content : Content) (style : StyleMap) : List Part :=
  match content with
  | .image url alt =>
      [.fixed "<div",
        .value "style" (Declarations.mk [("text-align", "center"), ("padding", "10px")]).text,
        .fixed ">", .fixed "<img", .value "src" url,
        .value "alt" ((shown? alt).getD defaultAlt)]
  | .button _ url =>
      [.fixed "<div",
        .value "style" (Declarations.mk [("padding", "20px"),
          ("text-align", (styleText? style "align").getD "center")]).text,
        .fixed ">", .fixed "<a", .value "href" url]
  | _ => [.fixed "<div"]

theorem fragmentParts_eq {block : Block} {kind : BlockKind} (known : block.kind? = some kind)
    (context : Context) :
    ∃ after, fragmentParts block context =
      beforeStyle block.content block.style ++
        .value "style" (styleDeclarations kind block.style).text :: after := by
  obtain ⟨id, content, style⟩ := block
  cases content <;> cases known <;> exact ⟨_, rfl⟩

theorem renderBlock_before_style {block : Block} {kind : BlockKind}
    (known : block.kind? = some kind) (context : Context) :
    ∃ after, renderBlock block context =
      writtenParts (beforeStyle block.content block.style) ++ " style=\"" ++
        (styleDeclarations kind block.style).attributeText ++ "\"" ++ after := by
  obtain ⟨after, parts⟩ := fragmentParts_eq known context
  refine ⟨writtenParts after, ?_⟩
  rw [renderBlock_eq, parts, writtenParts_append, writtenParts_cons]
  simp only [Part.written, Declarations.attributeText, String.append_assoc]
  rfl

/-- How a block of a kind is styled by its style map. -/
structure StyledBy (block : Block) (kind : BlockKind) (context : Context) : Prop where
  /-- The entries of the map come first, in order, and the fixed rules after them. -/
  listed : (styleDeclarations kind block.style).entries =
    block.style.entries.map (fun entry => (propertyOfKey entry.1, entry.2.toText)) ++
      fixedRules kind block.style
  once : ((fixedRules kind block.style).map Prod.fst).Nodup
  /-- The fixed rule is in effect, or else the last entry that stands for the property. -/
  effective : ∀ property, (styleDeclarations kind block.style).effective? property =
    (Keyed.lookup property (fixedRules kind block.style)).or
      (Declarations.lastEntry? block.style property)
  /-- The declarations are the value of one attribute of the fragment, joined and escaped. -/
  written : ∃ after, renderBlock block context =
    writtenParts (beforeStyle block.content block.style) ++ " style=\"" ++
      (styleDeclarations kind block.style).attributeText ++ "\"" ++ after
  joined : (styleDeclarations kind block.style).text =
    " ".intercalate ((styleDeclarations kind block.style).entries.map fun entry =>
      entry.1 ++ ": " ++ entry.2 ++ ";")
  escaped : Enclosed (styleDeclarations kind block.style).text
    (styleDeclarations kind block.style).attributeText
  fullWidth : kind = .button → ∀ property ∈ ["width", "box-sizing"],
    ((Keyed.lookup property (fixedRules kind block.style)).isSome = true ↔
      block.style.get? "width" = some (.text "full"))

/-- The style map of a block of a known kind is declared ahead of the rules of the kind, in
one attribute of the fragment, so the rules decide what they declare and the last entry of
the map any other property. -/
theorem style_map_before_rules {block : Block} {kind : BlockKind}
    (known : block.kind? = some kind) (context : Context) : StyledBy block kind context := by
  have declared := styleDeclarations_eq kind block.style
  constructor
  case listed =>
    rw [declared]
    rfl
  case once => exact nodup_fixedRules kind block.style
  case effective =>
    intro property
    rw [declared, Declarations.effective?_rules _ (nodup_fixedRules kind block.style),
      Declarations.effective?_ofStyle]
  case written => exact renderBlock_before_style known context
  case joined => rfl
  case escaped => exact enclosed_escapeAttribute _
  case fullWidth =>
    rintro rfl property wide
    refine lookup_fixedRules_button ?_ block.style
    simpa using wide

/-- A button with two keys for one property and keys for properties of fixed rules, and a
spacer with an empty height. -/
theorem style_map_before_rules_of_button :
    let style : StyleMap :=
      ⟨[("Color", .text "red"), ("fontFamily", .text "serif"), ("width", .text "full"),
        ("-color", .text "blue")], by decide⟩
    let button : Block := ⟨"b", .button "Go" "#", style⟩
    let spacer : Block := ⟨"s", .spacer, ⟨[("height", .text ""), ("a", .text "\"")], by decide⟩⟩
    (styleDeclarations .button button.style).effective? "-color" = some "blue" ∧
      (styleDeclarations .button button.style).effective? "font-family" = some "sans-serif" ∧
      (styleDeclarations .button button.style).effective? "width" = some "100%" ∧
      (styleDeclarations .button button.style).effective? "color" = none ∧
      ∃ after, renderBlock spacer .empty =
        "<div style=\"height: ; a: &quot;; height: 20px;\"" ++ after := by
  intro style button spacer
  have pressed : button.kind? = some .button := rfl
  have spaced : spacer.kind? = some .spacer := rfl
  have effective := (style_map_before_rules pressed .empty).effective
  obtain ⟨after, written⟩ := (style_map_before_rules spaced .empty).written
  refine ⟨(effective _).trans ?_, (effective _).trans ?_, (effective _).trans ?_,
    (effective _).trans ?_, after, written.trans ?_⟩
  · decide +kernel
  · decide +kernel
  · decide +kernel
  · decide +kernel
  · have front : writtenParts (beforeStyle spacer.content spacer.style) ++ " style=\"" ++
        (styleDeclarations .spacer spacer.style).attributeText ++ "\"" =
          "<div style=\"height: ; a: &quot;; height: 20px;\"" := by decide +kernel
    rw [front]

end BlockMail.Html
