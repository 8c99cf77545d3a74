import BlockMail.Template.Block

/-!
# Starter content

The block that a palette offers for each kind, the blocks of a new template, and
the sample values for previews.
-/

set_option autoImplicit false

namespace BlockMail.Starter

def untitledName : String := "Untitled Template"

def defaultCategory : String := "Other"

def defaultSubject : String := "New Subject"

def style (attributes : List (String × String)) : StyleMap :=
  .ofList (attributes.map fun (key, value) => (key, .text value))

def paletteBlock (kind : BlockKind) (id : String) : Block :=
  match kind with
  | .header =>
      ⟨id, .header "New Header" (some "Subtitle goes here"),
        style [("backgroundColor", "#ffffff"), ("textColor", "#000000"),
          ("padding", "20px")]⟩
  | .text =>
      ⟨id, .text "Edit this text block...",
        style [("padding", "10px"), ("color", "#333333"), ("fontSize", "16px")]⟩
  | .image =>
      ⟨id, .image "https://placehold.co/600x200" (some "Placeholder"),
        style [("width", "100%"), ("borderRadius", "0px")]⟩
  | .button =>
      ⟨id, .button "Click Me" "#",
        style [("backgroundColor", "#000000"), ("color", "#ffffff"),
          ("borderRadius", "4px"), ("align", "center")]⟩
  | .spacer => ⟨id, .spacer, style [("height", "30px")]⟩
  | .footer =>
      ⟨id, .footer "© \x7b\x7byear\x7d\x7d Company Name",
        style [("backgroundColor", "#f3f4f6"), ("color", "#9ca3af"),
          ("padding", "20px")]⟩

def blocks : List Block :=
  [⟨"s1", .header "Welcome Aboard!" (some "We are glad you are here."),
      style [("backgroundColor", "#4f46e5"), ("textColor", "#ffffff"),
        ("padding", "32px")]⟩,
    ⟨"s2",
      .text ("Hi \x7b\x7bname\x7d\x7d,<br><br>We are thrilled to have you join " ++
        "<strong>\x7b\x7bcompany\x7d\x7d</strong>. This is a default text block " ++
        "you can edit."),
      style [("padding", "24px"), ("textAlign", "left"), ("fontSize", "16px"),
        ("color", "#374151")]⟩,
    ⟨"s3", .button "Get Started" "#",
      style [("backgroundColor", "#4f46e5"), ("color", "#ffffff"),
        ("borderRadius", "8px"), ("width", "auto"), ("align", "center")]⟩,
    ⟨"s4",
      .footer
        "© \x7b\x7byear\x7d\x7d \x7b\x7bcompany\x7d\x7d. All rights reserved.",
      style [("backgroundColor", "#f3f4f6"), ("color", "#9ca3af"),
        ("padding", "16px")]⟩]

/-- The made-up recipient of previews and of mails sent without values. -/
def sampleContext (year : Int) : Context :=
  .ofList
    [("name", .text "Valued Customer"), ("company", .text "Your Company"),
      ("role", .text "Developer"), ("year", .number (.ofInt year))]

end BlockMail.Starter
