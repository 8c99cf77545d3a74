import BlockMail.Http.Message
import BlockMail.Proofs.Text.Blank

/-!
# Principals of requests

Which header values name different users. A legible value names what is left of it when
blanks and tabs at its ends are taken off, and every value that is not legible names the
anonymous principal.
-/

set_option autoImplicit false

namespace BlockMail

/-! ## Trimming -/

private theorem dropWhile_map {Element Image : Type} {test : Image → Bool}
    {other : Element → Bool} {shown : Element → Image} {elements : List Element}
    (same : ∀ element ∈ elements, test (shown element) = other element) :
    (elements.map shown).dropWhile test = (elements.dropWhile other).map shown := by
  induction elements with
  | nil => rfl
  | cons first rest ih =>
      have here := same first List.mem_cons_self
      rw [List.map_cons, List.dropWhile_cons, List.dropWhile_cons, here,
        ih fun element member => same element (List.mem_cons_of_mem _ member)]
      split <;> rfl

namespace Http

/-- A blank or a tab. -/
def isHeaderSpace (byte : UInt8) : Bool := byte == 32 || byte == 9

/-- A header value without the blanks and tabs at its ends. -/
def trimmedBytes (bytes : List UInt8) : List UInt8 :=
  (bytes.dropWhile isHeaderSpace).rdropWhile isHeaderSpace

/-- A header value all of whose bytes are visible ASCII, blanks or tabs. -/
def Legible (bytes : List UInt8) : Prop := bytes.all isHeaderByte = true

instance (bytes : List UInt8) : Decidable (Legible bytes) :=
  inferInstanceAs (Decidable (_ = _))

/-- The character of a byte of ASCII. -/
def byteChar (byte : UInt8) : Char := Char.ofNat byte.toNat

def bytesText (bytes : List UInt8) : String := String.ofList (bytes.map byteChar)

theorem toNat_byteChar (byte : UInt8) : (byteChar byte).toNat = byte.toNat := by
  have small := byte.toNat_lt
  have valid : byte.toNat.isValidChar := by
    left
    omega
  unfold byteChar Char.ofNat
  rw [dif_pos valid]
  rfl

theorem byteChar_injective : Function.Injective byteChar := by
  intro left right same
  apply UInt8.toNat_inj.1
  rw [← toNat_byteChar, same, toNat_byteChar]

theorem bytesText_injective : Function.Injective bytesText := by
  intro left right same
  apply List.map_injective_iff.2 byteChar_injective
  exact String.ofList_injective same

theorem isBlank_byteChar {byte : UInt8} (legible : isHeaderByte byte = true) :
    Text.isBlank (byteChar byte) = isHeaderSpace byte := by
  have value := toNat_byteChar byte
  simp only [isHeaderByte, Bool.or_eq_true, Bool.and_eq_true, decide_eq_true_eq, beq_iff_eq,
    UInt8.le_iff_toNat_le, UInt8.lt_iff_toNat_lt, ← UInt8.toNat_inj] at legible
  rw [Bool.eq_iff_iff]
  simp only [Text.isBlank, Text.blankRanges, isHeaderSpace, List.any_cons, List.any_nil, value,
    Bool.or_eq_true, Bool.and_eq_true, decide_eq_true_eq, beq_iff_eq, ← UInt8.toNat_inj]
  simp at legible ⊢
  omega

theorem trim_map_byteChar {bytes : List UInt8} (legible : Legible bytes) :
    Text.trim (bytes.map byteChar) = (trimmedBytes bytes).map byteChar := by
  have blanks : ∀ byte ∈ bytes, Text.isBlank (byteChar byte) = isHeaderSpace byte := by
    intro byte member
    exact isBlank_byteChar (List.all_eq_true.1 legible byte member)
  have front : Text.trimStart (bytes.map byteChar) =
      (bytes.dropWhile isHeaderSpace).map byteChar := dropWhile_map blanks
  unfold Text.trim trimmedBytes
  rw [front, Text.trimEnd_eq, List.rdropWhile, ← List.map_reverse, dropWhile_map,
    ← List.map_reverse, List.rdropWhile]
  intro byte member
  exact blanks byte ((List.dropWhile_sublist _).subset (List.mem_reverse.1 member))

/-- A legible value names what is left of it, and none when that is nothing. -/
theorem namedUser?_eq {bytes : List UInt8} (legible : Legible bytes) :
    namedUser? bytes =
      if trimmedBytes bytes = [] then none else some ⟨bytesText (trimmedBytes bytes)⟩ := by
  have read : headerText? bytes = some (String.ofList (bytes.map byteChar)) :=
    if_pos legible
  unfold namedUser?
  rw [read, Option.map_some]
  unfold Text.trimmed
  rw [String.toList_ofList, trim_map_byteChar legible]
  by_cases nothing : trimmedBytes bytes = []
  · rw [nothing]
    rfl
  · rw [if_neg nothing]
    have something : (bytesText (trimmedBytes bytes)).isEmpty = false := by
      rw [← Bool.not_eq_true, String.isEmpty_iff]
      intro empty
      exact nothing (bytesText_injective (empty.trans rfl))
    exact if_neg (something ▸ Bool.false_ne_true)

theorem namedUser?_of_illegible {bytes : List UInt8} (illegible : ¬Legible bytes) :
    namedUser? bytes = none := by
  have unread : headerText? bytes = none := if_neg illegible
  unfold namedUser?
  rw [unread]
  rfl

/-! ## Different principals -/

section Requesters

variable {request other : Request} {bytes others : List UInt8}

theorem requester_of_legible (given : request.user = some bytes) (legible : Legible bytes)
    (filled : trimmedBytes bytes ≠ []) :
    request.requester = ⟨bytesText (trimmedBytes bytes)⟩ := by
  unfold Request.requester
  rw [given, Option.bind_some, namedUser?_eq legible, if_neg filled]
  rfl

theorem requester_of_illegible (given : request.user = some bytes)
    (illegible : ¬Legible bytes) : request.requester = .anonymous := by
  unfold Request.requester
  rw [given, Option.bind_some, namedUser?_of_illegible illegible]
  rfl

/-- Header values that are not blank and differ once they are trimmed. At least one of
them is legible, and if only one is, it does not name the anonymous principal. -/
structure Apart (bytes others : List UInt8) : Prop where
  filled : trimmedBytes bytes ≠ []
  otherFilled : trimmedBytes others ≠ []
  different : trimmedBytes bytes ≠ trimmedBytes others
  legible : Legible bytes ∨ Legible others
  named : ¬Legible others → bytesText (trimmedBytes bytes) ≠ UserId.anonymous.text
  otherNamed : ¬Legible bytes → bytesText (trimmedBytes others) ≠ UserId.anonymous.text

theorem Apart.requester_ne (apart : Apart bytes others) (given : request.user = some bytes)
    (otherGiven : other.user = some others) : request.requester ≠ other.requester := by
  intro same
  by_cases legible : Legible bytes
  · rw [requester_of_legible given legible apart.filled] at same
    by_cases otherLegible : Legible others
    · rw [requester_of_legible otherGiven otherLegible apart.otherFilled] at same
      exact apart.different (bytesText_injective (UserId.mk.inj same))
    · rw [requester_of_illegible otherGiven otherLegible] at same
      exact apart.named otherLegible (congrArg UserId.text same)
  · have otherLegible := apart.legible.resolve_left legible
    rw [requester_of_illegible given legible,
      requester_of_legible otherGiven otherLegible apart.otherFilled] at same
    exact apart.otherNamed legible (congrArg UserId.text same).symm

end Requesters

end Http

end BlockMail
