import Mathlib.Data.List.Nodup
import BlockMail.Proofs.Html.Precedence

/-!
# Names of properties

A key of a style map is converted letter by letter: each capital becomes a hyphen and the
small letter. Reading a hyphen and a small letter behind it as the capital again brings a
key to camel case, which the conversion neither adds to nor takes from. So two keys stand
for one property just if they have one camel case, and keys without hyphens, which are in
camel case already, are told apart by their properties.
-/

set_option autoImplicit false

namespace BlockMail.Html

/-! ## Capitals and small letters

The ranges and the distance of the ASCII letters; no other character has a case here. -/

theorem isUpper_iff {char : Char} :
    char.isUpper = true ↔ 65 ≤ char.toNat ∧ char.toNat ≤ 90 :=
  decide_eq_true_iff

theorem isLower_iff {char : Char} :
    char.isLower = true ↔ 97 ≤ char.toNat ∧ char.toNat ≤ 122 := by
  delta Char.isLower
  simp [UInt32.le_iff_toNat_le]

theorem toNat_toLower {char : Char} (capital : char.isUpper = true) :
    char.toLower.toNat = char.toNat + 32 := by
  have range := isUpper_iff.1 capital
  have lowered : char.toLower.val = char.val + 32 :=
    congrArg Char.val (dif_pos (of_decide_eq_true capital))
  rw [← Char.toNat_val, lowered, UInt32.toNat_add, Char.toNat_val]
  exact Nat.mod_eq_of_lt (by simp; omega)

theorem toNat_toUpper {char : Char} (small : char.isLower = true) :
    char.toUpper.toNat = char.toNat - 32 := by
  have range : 97 ≤ char.toNat ∧ char.toNat ≤ 122 := isLower_iff.1 small
  have inside : 'a'.val ≤ char.val ∧ char.val ≤ 'z'.val := range
  have raised : char.toUpper.val = char.val + ('A'.val - 'a'.val) := by
    delta Char.toUpper
    rw [dif_pos inside]
  rw [← Char.toNat_val, raised, UInt32.toNat_add, Char.toNat_val]
  simp
  omega

theorem isUpper_of_isLower {char : Char} (small : char.isLower = true) :
    char.isUpper = false := by
  have range := isLower_iff.1 small
  rw [← Bool.not_eq_true, isUpper_iff]
  omega

theorem toUpper_toLower {char : Char} (capital : char.isUpper = true) :
    char.toLower.isLower = true ∧ char.toLower.toUpper = char := by
  have range := isUpper_iff.1 capital
  have lowered := toNat_toLower capital
  have small : char.toLower.isLower = true := by
    rw [isLower_iff, lowered]
    omega
  refine ⟨small, ?_⟩
  rw [← Char.toNat_inj, toNat_toUpper small, lowered]
  omega

theorem toLower_toUpper {char : Char} (small : char.isLower = true) :
    char.toUpper.isUpper = true ∧ char.toUpper.toLower = char := by
  have range := isLower_iff.1 small
  have raised := toNat_toUpper small
  have capital : char.toUpper.isUpper = true := by
    rw [isUpper_iff, raised]
    omega
  refine ⟨capital, ?_⟩
  rw [← Char.toNat_inj, toNat_toLower capital, raised]
  omega

theorem propertyChar_capital {char : Char} (capital : char.isUpper = true) :
    propertyChar char = ['-', char.toLower] :=
  if_pos capital

theorem propertyChar_other {char : Char} (other : char.isUpper = false) :
    propertyChar char = [char] :=
  if_neg (by simp [other])

theorem isUpper_of_mem_propertyChar {char written : Char}
    (member : written ∈ propertyChar char) : written.isUpper = false := by
  cases capital : char.isUpper with
  | false =>
      rw [propertyChar_other capital, List.mem_singleton] at member
      rw [member, capital]
  | true =>
      rw [propertyChar_capital capital, List.mem_pair] at member
      rcases member with rfl | rfl
      · rfl
      · exact isUpper_of_isLower (toUpper_toLower capital).1

/-! ## Whole keys -/

/-- The characters of the property that the characters of a key stand for. -/
def propertyChars (key : List Char) : List Char := key.flatMap propertyChar

theorem toList_propertyOfKey (key : String) :
    (propertyOfKey key).toList = propertyChars key.toList := by
  rw [propertyOfKey, String.toList_ofList, propertyChars]

theorem propertyChars_cons (char : Char) (rest : List Char) :
    propertyChars (char :: rest) = propertyChar char ++ propertyChars rest := by
  rw [propertyChars, List.flatMap_cons, propertyChars]

theorem isUpper_of_mem_propertyChars {key : List Char} {char : Char}
    (member : char ∈ propertyChars key) : char.isUpper = false := by
  obtain ⟨_, _, written⟩ := List.mem_flatMap.1 member
  exact isUpper_of_mem_propertyChar written

theorem propertyChars_eq_self {key : List Char} (small : ∀ char ∈ key, char.isUpper = false) :
    propertyChars key = key := by
  induction key with
  | nil => rfl
  | cons char rest ih =>
      rw [propertyChars_cons, propertyChar_other (small char List.mem_cons_self),
        List.singleton_append, ih fun other member => small other (List.mem_cons_of_mem _ member)]

theorem propertyOfKey_append (key other : String) :
    propertyOfKey (key ++ other) = propertyOfKey key ++ propertyOfKey other := by
  apply String.toList_injective
  simp only [toList_propertyOfKey, propertyChars, String.toList_append, List.flatMap_append]

theorem propertyOfKey_propertyOfKey (key : String) :
    propertyOfKey (propertyOfKey key) = propertyOfKey key := by
  apply String.toList_injective
  rw [toList_propertyOfKey, toList_propertyOfKey]
  exact propertyChars_eq_self fun _ => isUpper_of_mem_propertyChars

/-! ## Camel case -/

/-- A key in which a hyphen and a small letter are taken for the capital. -/
def camelCase : List Char → List Char
  | '-' :: char :: rest =>
      if char.isLower then char.toUpper :: camelCase rest else '-' :: camelCase (char :: rest)
  | char :: rest => char :: camelCase rest
  | [] => []

theorem camelCase_small {char : Char} (small : char.isLower = true) (rest : List Char) :
    camelCase ('-' :: char :: rest) = char.toUpper :: camelCase rest := by
  rw [camelCase, if_pos small]

/-- A hyphen stays that no small letter follows. -/
theorem camelCase_hyphen {rest : List Char} (large : ∀ char ∈ rest.head?, char.isLower = false) :
    camelCase ('-' :: rest) = '-' :: camelCase rest := by
  cases rest with
  | nil => rfl
  | cons char rest =>
      have other : ¬char.isLower = true := by simp [large char rfl]
      rw [camelCase, if_neg other]

theorem camelCase_cons {char : Char} (noHyphen : char ≠ '-') (rest : List Char) :
    camelCase (char :: rest) = char :: camelCase rest := by
  rw [camelCase]
  intro _ _ hyphen
  exact absurd hyphen noHyphen

/-- Keys from the end, by how the front of them is read in camel case. -/
theorem key_induction {holds : List Char → Prop} (nil : holds [])
    (small : ∀ char rest, char.isLower = true → holds rest → holds ('-' :: char :: rest))
    (hyphen : ∀ rest, (∀ char ∈ rest.head?, char.isLower = false) → holds rest →
      holds ('-' :: rest))
    (other : ∀ char rest, char ≠ '-' → holds rest → holds (char :: rest))
    (key : List Char) : holds key := by
  induction key using camelCase.induct with
  | case1 char rest lower ih => exact small char rest lower ih
  | case2 char rest large ih => exact hyphen (char :: rest) (by simpa using large) ih
  | case3 char rest alone ih =>
      by_cases hyphened : char = '-'
      · cases rest with
        | nil => exact hyphened ▸ hyphen [] (by simp) ih
        | cons next others => exact (alone next others hyphened rfl).elim
      · exact other char rest hyphened ih
  | case4 => exact nil

theorem camelCase_eq_self {key : List Char} (noHyphen : '-' ∉ key) : camelCase key = key := by
  induction key with
  | nil => rfl
  | cons char rest ih =>
      rw [List.mem_cons, not_or] at noHyphen
      rw [camelCase_cons (Ne.symm noHyphen.1), ih noHyphen.2]

/-- Only a small letter is written with a small letter in front. -/
theorem isLower_head_propertyChars {key : List Char}
    (large : ∀ char ∈ key.head?, char.isLower = false) :
    ∀ char ∈ (propertyChars key).head?, char.isLower = false := by
  cases key with
  | nil => exact large
  | cons first rest =>
      rw [propertyChars_cons]
      cases capital : first.isUpper with
      | false => simpa [propertyChar_other capital] using large
      | true => simp [propertyChar_capital capital]

/-- Converting a key keeps its camel case. -/
theorem camelCase_propertyChars (key : List Char) :
    camelCase (propertyChars key) = camelCase key := by
  induction key using key_induction with
  | nil => rfl
  | small char rest lower ih =>
      have kept : propertyChars ('-' :: char :: rest) = '-' :: char :: propertyChars rest := by
        rw [propertyChars_cons, propertyChars_cons, propertyChar_other (isUpper_of_isLower lower)]
        rfl
      rw [kept, camelCase_small lower, camelCase_small lower, ih]
  | hyphen rest large ih =>
      have kept : propertyChars ('-' :: rest) = '-' :: propertyChars rest := rfl
      rw [kept, camelCase_hyphen (isLower_head_propertyChars large), ih, camelCase_hyphen large]
  | other char rest noHyphen ih =>
      rw [propertyChars_cons, camelCase_cons noHyphen]
      cases capital : char.isUpper with
      | false =>
          rw [propertyChar_other capital, List.singleton_append, camelCase_cons noHyphen, ih]
      | true =>
          -- The hyphen and the small letter that are written are read as the capital.
          obtain ⟨lower, same⟩ := toUpper_toLower capital
          rw [propertyChar_capital capital, List.cons_append, List.singleton_append,
            camelCase_small lower, same, ih]

/-- A key and its camel case are converted to the same. -/
theorem propertyChars_camelCase (key : List Char) :
    propertyChars (camelCase key) = propertyChars key := by
  induction key using key_induction with
  | nil => rfl
  | small char rest lower ih =>
      obtain ⟨capital, same⟩ := toLower_toUpper lower
      rw [camelCase_small lower, propertyChars_cons, propertyChar_capital capital, same, ih,
        propertyChars_cons, propertyChars_cons, propertyChar_other (isUpper_of_isLower lower)]
      rfl
  | hyphen rest large ih =>
      rw [camelCase_hyphen large, propertyChars_cons, ih, ← propertyChars_cons]
  | other char rest noHyphen ih =>
      rw [camelCase_cons noHyphen, propertyChars_cons, ih, ← propertyChars_cons]

theorem propertyOfKey_eq_iff {key other : String} :
    propertyOfKey key = propertyOfKey other ↔ camelCase key.toList = camelCase other.toList := by
  rw [← String.toList_inj, toList_propertyOfKey, toList_propertyOfKey]
  constructor
  · intro same
    rw [← camelCase_propertyChars, same, camelCase_propertyChars]
  · intro same
    rw [← propertyChars_camelCase, same, propertyChars_camelCase]

example : propertyOfKey "fontSize" = propertyOfKey "font-size" := by decide

/-- Keys without hyphens are read back from their properties. -/
theorem camelCase_propertyOfKey {key : String} (noHyphen : '-' ∉ key.toList) :
    camelCase (propertyOfKey key).toList = key.toList := by
  rw [toList_propertyOfKey, camelCase_propertyChars, camelCase_eq_self noHyphen]

theorem propertyOfKey_inj {key other : String} (keyPlain : '-' ∉ key.toList)
    (otherPlain : '-' ∉ other.toList) (same : propertyOfKey key = propertyOfKey other) :
    key = other := by
  apply String.toList_injective
  rw [← camelCase_propertyOfKey keyPlain, same, camelCase_propertyOfKey otherPlain]

/-! ## Style maps -/

/-- How two keys are converted, one by one and one behind the other. -/
structure Converted (key other : String) : Prop where
  small : ∀ char ∈ (propertyOfKey key).toList, ¬('A' ≤ char ∧ char ≤ 'Z')
  settled : propertyOfKey (propertyOfKey key) = propertyOfKey key
  joined : propertyOfKey (key ++ other) = propertyOfKey key ++ propertyOfKey other
  /-- Keys without hyphens are told apart. -/
  apart : '-' ∉ key.toList → '-' ∉ other.toList → propertyOfKey key = propertyOfKey other →
    key = other
  /-- Other keys are told apart up to camel case. -/
  merged : propertyOfKey key = propertyOfKey other ↔
    camelCase key.toList = camelCase other.toList

/-- How a style map is declared: each entry in its place, under the property of its key. -/
structure DeclaredApart (style : StyleMap) : Prop where
  /-- No two keys without hyphens are declared as one property. -/
  apart : ∀ (place elsewhere : Nat) (entry other : String × Scalar),
    style.entries[place]? = some entry → style.entries[elsewhere]? = some other →
    '-' ∉ entry.1.toList → '-' ∉ other.1.toList → place ≠ elsewhere →
    ((Declarations.ofStyle style).entries[place]?).map Prod.fst ≠
      ((Declarations.ofStyle style).entries[elsewhere]?).map Prod.fst
  /-- Where no key has a hyphen, every entry of the map is in effect. -/
  effective : (∀ entry ∈ style.entries, '-' ∉ entry.1.toList) →
    ((Declarations.ofStyle style).entries.map Prod.fst).Nodup ∧
      ∀ entry ∈ style.entries,
        (Declarations.ofStyle style).effective? (propertyOfKey entry.1) = some entry.2.toText

theorem not_capital_of_mem_property {key : String} {char : Char}
    (member : char ∈ (propertyOfKey key).toList) : ¬('A' ≤ char ∧ char ≤ 'Z') := by
  rw [toList_propertyOfKey] at member
  exact of_decide_eq_false (isUpper_of_mem_propertyChars member)

theorem nodup_properties {style : StyleMap}
    (plain : ∀ entry ∈ style.entries, '-' ∉ entry.1.toList) :
    ((Declarations.ofStyle style).entries.map Prod.fst).Nodup := by
  have properties : (Declarations.ofStyle style).entries.map Prod.fst =
      (style.entries.map Prod.fst).map propertyOfKey := by
    simp [Declarations.ofStyle, Function.comp_def]
  have keysPlain : ∀ key ∈ style.entries.map Prod.fst, '-' ∉ key.toList := by
    intro key member
    obtain ⟨entry, there, rfl⟩ := List.mem_map.1 member
    exact plain entry there
  rw [properties]
  apply List.Nodup.map_on _ style.distinct
  intro key member other memberToo same
  exact propertyOfKey_inj (keysPlain key member) (keysPlain other memberToo) same

/-- A property that is declared once has the value of its declaration. -/
theorem effective?_of_mem {declarations : Declarations}
    (distinct : (declarations.entries.map Prod.fst).Nodup) {property value : String}
    (member : (property, value) ∈ declarations.entries) :
    declarations.effective? property = some value := by
  rw [Declarations.effective?, Declarations.find?_reverse_of_distinct distinct,
    Keyed.find?_key_of_mem Prod.fst distinct member]
  rfl

/-- Entries under keys without hyphens that declare one property are one entry. -/
theorem place_of_property {style : StyleMap} {place elsewhere : Nat}
    {entry other : String × Scalar} (here : style.entries[place]? = some entry)
    (there : style.entries[elsewhere]? = some other) (plain : '-' ∉ entry.1.toList)
    (otherPlain : '-' ∉ other.1.toList) (same : propertyOfKey entry.1 = propertyOfKey other.1) :
    place = elsewhere := by
  have inside : place < (style.entries.map Prod.fst).length := by
    rw [List.length_map]
    exact (List.getElem?_eq_some_iff.1 here).1
  rw [← List.getElem?_inj inside style.distinct, List.getElem?_map, List.getElem?_map, here, there,
    Option.map_some, Option.map_some, propertyOfKey_inj plain otherPlain same]

/-- Properties have no capitals, are their own properties and are put together as their keys
are. Keys without hyphens are told apart by their properties, in a style map as well. -/
theorem properties_tell_keys_apart (key other : String) (style : StyleMap) :
    Converted key other ∧ DeclaredApart style := by
  constructor
  · constructor
    case small => exact fun _ => not_capital_of_mem_property
    case settled => exact propertyOfKey_propertyOfKey key
    case joined => exact propertyOfKey_append key other
    case apart => exact propertyOfKey_inj
    case merged => exact propertyOfKey_eq_iff
  · constructor
    case apart =>
      intro place elsewhere entry second here there plain otherPlain different same
      simp only [Declarations.ofStyle, List.getElem?_map, here, there, Option.map_some,
        Option.some.injEq] at same
      exact different (place_of_property here there plain otherPlain same)
    case effective =>
      intro plain
      refine ⟨nodup_properties plain, ?_⟩
      intro entry member
      exact effective?_of_mem (nodup_properties plain) (List.mem_map.2 ⟨entry, member, rfl⟩)

/-- Capitals in a row and in front, a digit, and a letter that is no ASCII letter. -/
theorem properties_tell_keys_apart_in_camel_case :
    let style : StyleMap :=
      ⟨[("URL", .text "a"), ("uRL", .text "b"), ("fontSize2", .text "c"), ("fontÄ", .text "d")],
        by decide⟩
    (∀ entry ∈ style.entries, '-' ∉ entry.1.toList) ∧
      ((Declarations.ofStyle style).entries.map Prod.fst).Nodup ∧
      (Declarations.ofStyle style).effective? "-u-r-l" = some "a" ∧
      (Declarations.ofStyle style).effective? "u-r-l" = some "b" ∧
      propertyOfKey "URL" ≠ propertyOfKey "uRL" := by
  intro style
  obtain ⟨converted, apart⟩ := properties_tell_keys_apart "URL" "uRL" style
  have plain : ∀ entry ∈ style.entries, '-' ∉ entry.1.toList := by decide
  obtain ⟨distinct, effective⟩ := apart.effective plain
  refine ⟨plain, distinct, ?_, ?_, ?_⟩
  · exact effective ("URL", .text "a") (by decide)
  · exact effective ("uRL", .text "b") (by decide)
  · intro same
    exact absurd (converted.apart (by decide) (by decide) same) (by decide)

end BlockMail.Html
