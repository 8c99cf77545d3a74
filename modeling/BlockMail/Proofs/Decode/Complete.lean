import Mathlib.Data.List.Nodup
import BlockMail.Decode.Record

/-!
# Complete records

A record whose fields are all written, each of them once, is built from the values of its
fields. In what order they are written, and what else is written between them, makes no
difference to what is built.
-/

set_option autoImplicit false

namespace BlockMail.Decode

/-! ## Fields by name -/

namespace Fields

variable {Source Record : Type} {fields : Fields Source Record} {names : List String}

/-- Each field goes by one name, and no two by the same. -/
structure GoBy (fields : Fields Source Record) (names : List String) : Prop where
  single : fields.names = names.map ([·])
  distinct : names.Nodup

theorem GoBy.index?_eq_some (proper : fields.GoBy names) {name : String} {index : Nat} :
    fields.index? name = some index ↔ names[index]? = some name := by
  unfold index?
  rw [proper.single, List.findIdx?_map, List.findIdx?_eq_some_iff_getElem]
  simp only [Function.comp_apply, List.contains_cons, List.contains_nil, Bool.or_false,
    beq_iff_eq]
  constructor
  · rintro ⟨inside, here, _⟩
    rw [List.getElem?_eq_getElem inside, here]
  · intro found
    obtain ⟨inside, here⟩ := List.getElem?_eq_some_iff.1 found
    refine ⟨inside, here.symm, ?_⟩
    intro earlier before same
    have equal := (proper.distinct.getElem_inj_iff).1 (same.symm.trans here.symm)
    omega

/-- A member for a field has a value that the field is not content with. -/
def Faulty (fields : Fields Source Record) (members : List (String × Source))
    (cause : DecodeError) : Prop :=
  ∃ member ∈ members, ∃ index, fields.index? member.1 = some index ∧
    fields.check index member.2 = .error cause

theorem Faulty.cons {members : List (String × Source)} {cause : DecodeError}
    (faulty : fields.Faulty members cause) (member : String × Source) :
    fields.Faulty (member :: members) cause := by
  obtain ⟨found, inMembers, complaint⟩ := faulty
  exact ⟨found, List.mem_cons_of_mem _ inMembers, complaint⟩

variable [Carrier Source]

/-- Members of which no two are for one field are checked each by itself. -/
theorem checkMembers_cases (members : List (String × Source)) (seen : List Nat)
    (skips : ∀ member ∈ members, Carrier.skip member.2 = .ok ())
    (once : (members.filterMap fun member => fields.index? member.1).Nodup)
    (unseen : ∀ member ∈ members, ∀ index ∈ seen, fields.index? member.1 ≠ some index) :
    fields.checkMembers seen members = .ok () ∨
      ∃ cause, fields.Faulty members cause ∧
        fields.checkMembers seen members = .error cause := by
  -- The fields met so far grow along the members, so the induction is over all of them.
  induction members generalizing seen with
  | nil => exact .inl rfl
  | cons member rest ih =>
      obtain ⟨name, source⟩ := member
      simp only [List.filterMap_cons] at once
      have later := fun seen => ih seen fun member inRest =>
        skips member (List.mem_cons_of_mem _ inRest)
      cases field : fields.index? name with
      | none =>
          simp only [field] at once
          have passed : fields.checkMembers seen ((name, source) :: rest) =
              fields.checkMembers seen rest := by
            simp only [checkMembers, field, skips _ List.mem_cons_self]
            rfl
          rw [passed]
          apply (later seen once ?_).imp_right
          · rintro ⟨cause, faulty, complaint⟩
            exact ⟨cause, faulty.cons _, complaint⟩
          · intro member inRest
            exact unseen member (List.mem_cons_of_mem _ inRest)
      | some index =>
          simp only [field, List.nodup_cons] at once
          have new : index ∉ seen := by
            intro present
            exact unseen _ List.mem_cons_self index present field
          cases checked : fields.check index source with
          | error cause =>
              refine .inr ⟨cause, ⟨_, List.mem_cons_self, index, field, checked⟩, ?_⟩
              simp only [checkMembers, field, if_neg new, checked]
              rfl
          | ok _ =>
              have passed : fields.checkMembers seen ((name, source) :: rest) =
                  fields.checkMembers (index :: seen) rest := by
                simp only [checkMembers, field, if_neg new, checked]
                rfl
              rw [passed]
              apply (later (index :: seen) once.2 ?_).imp_right
              · rintro ⟨cause, faulty, complaint⟩
                exact ⟨cause, faulty.cons _, complaint⟩
              · intro member inRest other known same
                rcases List.mem_cons.1 known with rfl | known
                · exact once.1 (List.mem_filterMap.2 ⟨member, inRest, same⟩)
                · exact unseen member (List.mem_cons_of_mem _ inRest) other known same

end Fields

/-! ## Values written for fields -/

/-- A draft that writes a value for each of the names, and for none of them twice. An
object may hold other members and have them in any order; an array has the values in the
order of the names. -/
inductive Writes (names : List String) (values : List Json.Draft) : Json.Draft → Prop where
  | named {members : List (String × Json.Draft)}
      (sound : ∀ member ∈ members, member.2.wellFormed = true)
      (once : ∀ pair ∈ names.zip values,
        members.filter (fun member => member.1 == pair.1) = [pair]) :
      Writes names values (.object (members.map fun member => (some member.1, member.2)))
  | listed : Writes names values (.array values)

/-- A value one level further in. -/
def Reading.inside (depth : Nat) (draft : Json.Draft) : Reading := ⟨draft, depth - 1⟩

def Reading.member (depth : Nat) (member : String × Json.Draft) : String × Reading :=
  (member.1, .inside depth member.2)

theorem namedMembers_map (depth : Nat) (members : List (String × Json.Draft)) :
    namedMembers depth (members.map fun member => (some member.1, member.2)) =
      (members.map fun member => (member.1, ⟨member.2, depth⟩), true) := by
  induction members with
  | nil => rfl
  | cons member rest ih => simp only [List.map_cons, namedMembers, ih]

theorem layer_object {depth : Nat} (deep : 1 < depth) (members : List (String × Json.Draft)) :
    Carrier.layer (Reading.mk
        (.object (members.map fun member => (some member.1, member.2))) depth) =
      .object (members.map (Reading.member depth)) true := by
  simp only [Carrier.layer, layerOfReading, namedMembers_map, if_neg (Nat.not_le.2 deep)]
  rfl

theorem layer_array {depth : Nat} (deep : 1 < depth) (items : List Json.Draft) :
    Carrier.layer (Reading.mk (.array items) depth) =
      .array (items.map (Reading.inside depth)) := by
  simp only [Carrier.layer, layerOfReading, if_neg (Nat.not_le.2 deep)]
  rfl

namespace Fields

variable {Record : Type} {fields : Fields Reading Record} {names : List String}
  {values : List Json.Draft} {members : List (String × Json.Draft)} {draft : Json.Draft}
  {depth : Nat}

section Named

variable (proper : fields.GoBy names) (counted : values.length = names.length)
  (once : ∀ pair ∈ names.zip values,
    members.filter (fun member => member.1 == pair.1) = [pair])

include counted in
theorem getElem?_zip (index : Nat) :
    ((names.zip values)[index]?).map Prod.snd = values[index]? := by
  rw [← List.getElem?_map, List.map_snd_zip (Nat.le_of_eq counted)]

include proper counted once

/-- The members for a field are the one that writes its value. -/
theorem filter_index? (index : Nat) :
    members.filter (fun member => fields.index? member.1 == some index) =
      (names.zip values)[index]?.toList := by
  cases written : (names.zip values)[index]? with
  | none =>
      have beyond := List.getElem?_eq_none_iff.1 written
      rw [List.length_zip, counted, Nat.min_self] at beyond
      rw [Option.toList_none, List.filter_eq_nil_iff]
      intro member _ chosen
      have found := proper.index?_eq_some.1 (eq_of_beq chosen)
      rw [List.getElem?_eq_none beyond] at found
      cases found
  | some pair =>
      obtain ⟨name, _⟩ := List.getElem?_zip_eq_some.1 written
      rw [Option.toList_some, ← once pair (List.mem_of_getElem? written)]
      apply List.filter_congr
      intro member _
      rw [Bool.eq_iff_iff, beq_iff_eq, beq_iff_eq, proper.index?_eq_some, name,
        Option.some.injEq, eq_comm]

theorem written_map : fields.written (members.map (Reading.member depth)) =
    fun index => values[index]?.map (Reading.inside depth) := by
  funext index
  have chosen : ((fun member => fields.index? member.1 == some index) ∘
      Reading.member depth) = fun member => fields.index? member.1 == some index := rfl
  unfold Fields.written
  rw [List.find?_map, ← List.head?_filter, chosen, filter_index? proper counted once,
    ← getElem?_zip counted]
  cases (names.zip values)[index]? <;> rfl

theorem nodup_index? :
    ((members.map (Reading.member depth)).filterMap fun member =>
      fields.index? member.1).Nodup := by
  rw [List.nodup_iff_count_le_one]
  intro index
  have chosen : ((fun member => fields.index? member.1 == some index) ∘
      Reading.member depth) = fun member => fields.index? member.1 == some index := rfl
  rw [List.count_filterMap, List.countP_map, List.countP_eq_length_filter, chosen,
    filter_index? proper counted once]
  cases (names.zip values)[index]? <;> simp

end Named

/-- What a description of fields makes of a complete record: the complaint of a field
about its value, or what it builds from the values. -/
theorem decode_of_writes (proper : fields.GoBy names) (counted : values.length = names.length)
    (deep : 1 < depth) (writes : Writes names values draft) (title : String) :
    (∃ index value cause, values[index]? = some value ∧
      fields.check index (.inside depth value) = .error cause ∧
      fields.decode title ⟨draft, depth⟩ = .error cause) ∨
    ∃ missing, fields.decode title ⟨draft, depth⟩ =
      fields.build missing fun index => values[index]?.map (Reading.inside depth) := by
  cases writes with
  | listed =>
      have all : ¬fields.names.length < (values.map (Reading.inside depth)).length := by
        rw [proper.single, List.length_map, List.length_map, counted]
        exact Nat.lt_irrefl _
      right
      refine ⟨fun index _ => .wrongLength index ("struct " ++ title ++ " with " ++
        countElements fields.names.length), ?_⟩
      unfold decode decodeAs
      simp only [layer_array deep, if_neg all, List.getElem?_map]
      cases fields.build _ _ <;> rfl
  | named sound once =>
      rename_i members
      have skips : ∀ member ∈ members.map (Reading.member depth),
          Carrier.skip member.2 = .ok () := by
        intro member written
        obtain ⟨source, inMembers, rfl⟩ := List.mem_map.1 written
        exact if_pos (sound source inMembers)
      unfold decode decodeAs
      simp only [layer_object deep, written_map proper counted once, if_true]
      rcases checkMembers_cases _ [] skips (nodup_index? proper counted once) (by simp) with
        passed | ⟨cause, faulty, complaint⟩
      · right
        refine ⟨fun _ name => .missingField name, ?_⟩
        rw [passed]
        rfl
      · left
        obtain ⟨member, written, index, field, refused⟩ := faulty
        obtain ⟨source, inMembers, rfl⟩ := List.mem_map.1 written
        have chosen : source ∈ (names.zip values)[index]?.toList := by
          rw [← filter_index? proper counted once]
          exact List.mem_filter.2 ⟨inMembers, beq_iff_eq.2 field⟩
        have value : values[index]? = some source.2 := by
          rw [← getElem?_zip counted, Option.mem_toList.1 chosen, Option.map_some]
        refine ⟨index, source.2, cause, value, refused, ?_⟩
        rw [complaint]
        rfl

/-- A complete record decodes to what is built from its values, if that fails as soon as
a field has a complaint. -/
theorem decode_eq_of_writes {result : Except DecodeError Record}
    (proper : fields.GoBy names) (counted : values.length = names.length) (deep : 1 < depth)
    (writes : Writes names values draft) (title : String)
    (strict : ∀ index value cause, values[index]? = some value →
      fields.check index (.inside depth value) = .error cause → result = .error cause)
    (built : ∀ missing,
      fields.build missing (fun index => values[index]?.map (Reading.inside depth)) = result) :
    fields.decode title ⟨draft, depth⟩ = result := by
  rcases decode_of_writes proper counted deep writes title with
    ⟨index, value, cause, found, refused, decoded⟩ | ⟨missing, decoded⟩
  · rw [decoded, strict index value cause found refused]
  · rw [decoded, built]

end Fields

end BlockMail.Decode
