import BlockMail.Decode.Record

/-!
# Records written field by field

A record is written with a member for every field that has a value, in the order of the
fields. Decoding it gives the record back as soon as each field does so by itself, whichever
carrier shows the members.
-/

set_option autoImplicit false

namespace BlockMail.Decode

/-! ## Values shown as they are -/

def Layer.map {Old New : Type} (change : Old → New) : Layer Old → Layer New
  | .broken => .broken
  | .null => .null
  | .bool value => .bool value
  | .number value => .number value
  | .string value => .string value
  | .array items => .array (items.map change)
  | .object members complete =>
      .object (members.map fun member => (member.1, change member.2)) complete

/-- A way to carry JSON values in which a decoder sees every layer as it is. -/
structure Shows {Source : Type} [Carrier Source] (carry : Json → Source) : Prop where
  layer (value : Json) : Carrier.layer (carry value) = (layerOfJson value).map carry
  whole (value : Json) : Carrier.whole (carry value) = .ok value

theorem shows_json : Shows fun value : Json => value := by
  refine ⟨?_, fun _ => rfl⟩
  intro value
  cases value <;> simp [Carrier.layer, layerOfJson, Layer.map]

theorem shows_deferred : Shows Deferred.mk := by
  refine ⟨?_, fun _ => rfl⟩
  intro value
  cases value <;> rfl

namespace Shows

variable {Source Value : Type} [Carrier Source] {carry : Json → Source} (shows : Shows carry)

include shows

theorem text (value : String) : Decode.text (carry (.string value)) = .ok value := by
  unfold Decode.text
  rw [shows.layer]
  rfl

theorem any (value : Json) : Decode.any (carry value) = .ok value := shows.whole value

theorem wholeNumber {least most : Int} {value : Nat} (word : Number.IsWord value)
    (above : least ≤ value) (below : value ≤ most) (name : String) :
    Decode.wholeNumber name least most (carry (.ofNat value)) = .ok (value : Int) := by
  unfold Decode.wholeNumber Json.ofNat
  rw [shows.layer, Number.ofInt_of_word word]
  exact if_pos ⟨above, below⟩

theorem choice {pick? : String → Option Value} {name : String} {value : Value}
    (picked : pick? name = some value) (names : List String) :
    Decode.choice names pick? (carry (.string name)) = .ok value := by
  unfold Decode.choice
  simp only [shows.layer, layerOfJson, Layer.map, alternative, picked]

theorem nullable_some {decode : Decoder Source Value} {source : Json} {value : Value}
    (present : source.isNull = false) (decoded : decode (carry source) = .ok value) :
    nullable decode (carry source) = .ok (some value) := by
  unfold nullable
  rw [shows.layer]
  cases source with
  | null => cases present
  | bool | number | string | array | object => exact congrArg (Except.map some) decoded

theorem nullable_orNull {decode : Decoder Source Value} {encode : Value → Json}
    {value : Option Value}
    (each : ∀ present, value = some present →
      (encode present).isNull = false ∧ decode (carry (encode present)) = .ok present) :
    nullable decode (carry (Json.orNull encode value)) = .ok value := by
  cases value with
  | none =>
      unfold nullable
      rw [Json.orNull, shows.layer]
      rfl
  | some present =>
      obtain ⟨there, decoded⟩ := each present rfl
      exact shows.nullable_some there decoded

theorem map {decode : Decoder Source Value} {encode : Value → Json}
    {entries : List (String × Value)}
    (each : ∀ entry ∈ entries, decode (carry (encode entry.2)) = .ok entry.2) :
    Decode.map decode (carry (.object (entries.map fun entry => (entry.1, encode entry.2)))) =
      .ok entries := by
  have decoded : members decode
      (entries.map fun entry => (entry.1, carry (encode entry.2))) = .ok entries := by
    induction entries with
    | nil => rfl
    | cons entry rest ih =>
        obtain ⟨here, later⟩ := List.forall_mem_cons.1 each
        simp only [List.map_cons, members, here, ih later]
        rfl
  unfold Decode.map
  simp only [shows.layer, layerOfJson, Layer.map, List.map_map, Function.comp_def, decoded]
  rfl

end Shows

/-! ## Fields and their values -/

namespace Fields

variable {Source Record Next : Type}

/-- Values for the fields, in order, of which a record is built. What is written for fields
beyond them makes no difference. -/
structure Takes (fields : Fields Source Record) (values : List (Option Source))
    (record : Record) : Prop where
  counted : values.length = fields.names.length
  checks {index : Nat} {source : Source} :
    values[index]? = some (some source) → fields.check index source = .ok ()
  builds {written : Nat → Option Source} (missing : Nat → String → DecodeError) :
    (∀ index value, values[index]? = some value → written index = value) →
      fields.build missing written = .ok record

theorem takes_none (record : Record) :
    (Fields.none record : Fields Source Record).Takes [] record :=
  ⟨rfl, nofun, fun _ _ => rfl⟩

theorem Takes.and {first : Fields Source (Next → Record)} {second : Fields Source Next}
    {values more : List (Option Source)} {make : Next → Record} {next : Next}
    (here : first.Takes values make) (there : second.Takes more next) :
    (first.and second).Takes (values ++ more) (make next) := by
  have shifted (index : Nat) : (values ++ more)[index + first.names.length]? = more[index]? := by
    rw [← here.counted, List.getElem?_append_right (Nat.le_add_left _ _), Nat.add_sub_cancel]
  refine ⟨?_, ?_, ?_⟩
  · rw [List.length_append, here.counted, there.counted]
    exact List.length_append.symm
  · intro index source written
    unfold Fields.and
    dsimp only
    split
    · rename_i inFirst
      rw [List.getElem?_append_left (by rw [here.counted]; exact inFirst)] at written
      exact here.checks written
    · rename_i behind
      apply there.checks
      rw [← shifted, Nat.sub_add_cancel (Nat.not_lt.1 behind)]
      exact written
  · intro written missing agrees
    have made : first.build missing written = .ok make := by
      apply here.builds
      intro index value inFirst
      apply agrees
      rw [List.getElem?_append_left (List.getElem?_eq_some_iff.1 inFirst).1, inFirst]
    have added : second.build (fun index => missing (index + first.names.length))
        (fun index => written (index + first.names.length)) = .ok next := by
      apply there.builds
      intro index value inSecond
      exact agrees _ _ ((shifted index).trans inSecond)
    unfold Fields.and
    simp only [made, added]
    rfl

section Single

variable {names : List String} {decode : Decoder Source Record}

theorem takes_single {absent : DecodeError → Except DecodeError Record} {source : Source}
    {record : Record} (decoded : decode source = .ok record) :
    (single names decode absent).Takes [some source] record := by
  refine ⟨rfl, ?_, ?_⟩
  · intro index other written
    cases index with
    | zero =>
        cases written
        exact congrArg (Except.map fun _ => ()) decoded
    | succ index => cases written
  · intro written missing agrees
    simp only [single, agrees 0 _ rfl, decoded]

theorem takes_nullable [Carrier Source] {source : Source} {value : Option Record}
    (decoded : nullable decode source = .ok value) :
    (optionalNamed names decode).Takes [some source] value :=
  takes_single decoded

/-- A field that may be absent, written only when it has a value. -/
theorem takes_optional [Carrier Source] {encode : Record → Source} {value : Option Record}
    (each : ∀ present, value = some present →
      nullable decode (encode present) = .ok (some present)) :
    (optionalNamed names decode).Takes [value.map encode] value := by
  cases value with
  | some present => exact takes_nullable (each present rfl)
  | none =>
      refine ⟨rfl, ?_, ?_⟩
      · intro index other written
        cases index <;> cases written
      · intro written missing agrees
        simp only [optionalNamed, single, agrees 0 _ rfl, Option.map_none]

end Single

/-! ## Members and their fields -/

/-- The members that write values under names. -/
def membersOf (pairs : List (String × Option Source)) : List (String × Source) :=
  pairs.filterMap fun pair => pair.2.map (pair.1, ·)

theorem membersOf_cons (name : String) (value : Option Source)
    (rest : List (String × Option Source)) :
    membersOf ((name, value) :: rest) =
      value.toList.map (name, ·) ++ membersOf rest := by
  cases value <;> rfl

/-- Names of fields in a row, from one on. -/
def Numbered (fields : Fields Source Record) (start : Nat) (names : List String) : Prop :=
  names.map fields.index? = (List.range' start names.length).map some

section Members

variable {fields : Fields Source Record}

theorem numbered_cons {start : Nat} {name : String} {rest : List String} :
    fields.Numbered start (name :: rest) ↔
      fields.index? name = some start ∧ fields.Numbered (start + 1) rest := by
  simp [Numbered, List.range'_succ]

theorem checkMembers_membersOf [Carrier Source] {pairs : List (String × Option Source)}
    {start : Nat} {seen : List Nat} (numbered : fields.Numbered start (pairs.map Prod.fst))
    (earlier : ∀ index ∈ seen, index < start)
    (checks : ∀ offset source, (pairs.map Prod.snd)[offset]? = some (some source) →
      fields.check (start + offset) source = .ok ()) :
    fields.checkMembers seen (membersOf pairs) = .ok () := by
  -- Each field is numbered after all that were met before it.
  induction pairs generalizing start seen with
  | nil => rfl
  | cons pair rest ih =>
      obtain ⟨name, value⟩ := pair
      obtain ⟨here, others⟩ := numbered_cons.1 numbered
      have later : ∀ offset source, (rest.map Prod.snd)[offset]? = some (some source) →
          fields.check (start + 1 + offset) source = .ok () := by
        intro offset source written
        rw [Nat.add_assoc, Nat.add_comm 1]
        exact checks (offset + 1) source written
      cases value with
      | none => exact ih others (fun index member => Nat.lt_succ_of_lt (earlier index member)) later
      | some source =>
          have new : start ∉ seen := fun member => Nat.lt_irrefl _ (earlier start member)
          have checked : fields.check start source = .ok () := checks 0 source rfl
          have passed : fields.checkMembers (start :: seen) (membersOf rest) = .ok () :=
            ih others (List.forall_mem_cons.2 ⟨Nat.lt_succ_self _, fun index member =>
              Nat.lt_succ_of_lt (earlier index member)⟩) later
          change fields.checkMembers seen ((name, source) :: membersOf rest) = .ok ()
          simp only [checkMembers, here, if_neg new, checked, passed]
          rfl

theorem written_cons {name : String} {index : Nat} (here : fields.index? name = some index)
    (value : Option Source) (rest : List (String × Option Source)) (other : Nat) :
    fields.written (membersOf ((name, value) :: rest)) other =
      if index = other then value.or (fields.written (membersOf rest) other)
      else fields.written (membersOf rest) other := by
  cases value with
  | none => simp only [membersOf_cons, Option.toList_none, List.map_nil, List.nil_append,
      Option.none_or, ite_self]
  | some source =>
      have found : (fields.index? name == some other) = (index == other) := by
        rw [here, Option.some_beq_some]
      simp only [written, membersOf_cons, Option.toList_some, List.map_cons, List.map_nil,
        List.singleton_append, List.find?_cons, found]
      by_cases same : index = other
      · simp [same]
      · simp only [beq_eq_false_iff_ne.2 same, if_neg same]

theorem written_of_lt {pairs : List (String × Option Source)} {start index : Nat}
    (numbered : fields.Numbered start (pairs.map Prod.fst)) (before : index < start) :
    fields.written (membersOf pairs) index = .none := by
  induction pairs generalizing start with
  | nil => rfl
  | cons pair rest ih =>
      obtain ⟨here, others⟩ := numbered_cons.1 numbered
      rw [written_cons here, if_neg (Nat.ne_of_gt before)]
      exact ih others (Nat.lt_succ_of_lt before)

theorem written_membersOf {pairs : List (String × Option Source)} {start offset : Nat}
    (numbered : fields.Numbered start (pairs.map Prod.fst)) {value : Option Source}
    (written : (pairs.map Prod.snd)[offset]? = some value) :
    fields.written (membersOf pairs) (start + offset) = value := by
  induction pairs generalizing start offset with
  | nil => cases written
  | cons pair rest ih =>
      obtain ⟨here, others⟩ := numbered_cons.1 numbered
      rw [written_cons here]
      cases offset with
      | zero =>
          cases written
          rw [Nat.add_zero, if_pos rfl, written_of_lt others (Nat.lt_succ_self _), Option.or_none]
      | succ offset =>
          rw [if_neg (by omega), Nat.add_comm offset, ← Nat.add_assoc]
          exact ih others written

/-- A record whose members write values that the fields take. -/
theorem Takes.decodeAs [Carrier Source] {record : Record}
    (pairs : List (String × Option Source)) (takes : fields.Takes (pairs.map Prod.snd) record)
    (numbered : fields.Numbered 0 (pairs.map Prod.fst)) {source : Source}
    (shown : Carrier.layer source = .object (membersOf pairs) true) (title form : String) :
    fields.decodeAs title form source = .ok record := by
  have checked : fields.checkMembers [] (membersOf pairs) = .ok () := by
    refine checkMembers_membersOf numbered nofun ?_
    intro offset source written
    rw [Nat.zero_add]
    exact takes.checks written
  have built : fields.build (fun _ name => .missingField name)
      (fields.written (membersOf pairs)) = .ok record := by
    refine takes.builds _ ?_
    intro index value written
    rw [← Nat.zero_add index]
    exact written_membersOf numbered written
  unfold Fields.decodeAs
  simp only [shown, checked, built]
  rfl

end Members

end Fields

end BlockMail.Decode
