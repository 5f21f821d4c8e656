import LspGateway.Json.Shape
import LspGateway.Proofs.Json.Ordered

/-!
# Records

A record is written as an object, or as an array of its members in the order of their
declaration. Either way it is read exactly if every member is of its shape or may be absent,
and it is read as the record of these members.
-/

namespace LspGateway.Json

/-- Objects, and arrays with no more elements than a record has members. -/
def IsRecord (names : List String) : Json → Prop
  | .object _ => True
  | .array items => items.length ≤ names.length
  | _ => False

/-- The member of a record: in an object the one of that key, in an array the one at the place
of its name. -/
def member? (names : List String) (json : Json) (name : String) : Option Json :=
  match json with
  | .object members => Members.get? members name
  | .array items => items[names.idxOf name]?
  | _ => none

/-- A member that counts: an explicit `null` counts as absent. -/
def present : Option Json → Option Json
  | some .null => none
  | found => found

/-- What counts is what stands there. -/
theorem eq_some_of_present {found : Option Json} {value : Json} (h : present found = some value) :
    found = some value ∧ value ≠ .null := by
  unfold present at h
  split at h
  · cases h
  · next other =>
    subst h
    exact ⟨rfl, fun null => other (congrArg some null)⟩

/-- What counts once counts again. -/
theorem present_present (found : Option Json) : present (present found) = present found := by
  cases found with
  | none => rfl
  | some json => cases json <;> rfl

/-- It does not matter whether `null` stands there or nothing. -/
theorem present_getD (found : Option Json) : present (some (found.getD .null)) = present found := by
  cases found <;> rfl

/-- A value other than `null` counts. -/
theorem present_some {value : Json} (h : value ≠ .null) : present (some value) = some value := by
  cases value <;> first | rfl | exact absurd rfl h

/-- The keys of an object ascend. -/
def KeysAscend (json : Json) : Prop :=
  ∀ members, json = .object members → Members.Ascending members

/-- They do in an ordered value. -/
theorem Ordered.keysAscend {json : Json} (ordered : json.Ordered) : json.KeysAscend := by
  rintro members rfl
  exact ordered.ascending

/-- They do in an object of pairs. -/
theorem keysAscend_ofPairs (pairs : List (String × Json)) : (Json.ofPairs pairs).KeysAscend := by
  rintro members ⟨⟩
  exact Members.ascending_ofPairs pairs

/-- The members of an ordered record are ordered. -/
theorem Ordered.of_member? {json : Json} (ordered : json.Ordered) {names : List String}
    {name : String} {value : Json} (found : json.member? names name = some value) :
    value.Ordered := by
  cases json with
  | object members => exact ordered.of_get? found
  | array items => exact ordered.of_getElem? found
  | _ => cases found

/-! ## Fields -/

/-- What a field holds that is absent: its default, if it has one. -/
def Field.default? {σ : Type} (field : Field σ) : Option Json :=
  match field.absent with
  | .default value => some value
  | _ => none

/-- The content of a field in canonical form: that of the member found, or the default. -/
def Field.content (place : Place) (field : Field Shape) : Option Json → Option Json
  | some json => (field.shape.check place json).toOption
  | none => field.default?

/-- The members of a record with the given contents. -/
def membersOf {σ : Type} (fields : List (Field σ)) (content : Field σ → Option Json) :
    List (String × Json) :=
  fields.flatMap fun field => field.emit ((content field).getD .null)

/-- The first field comes first. -/
theorem membersOf_cons {σ : Type} (field : Field σ) (fields : List (Field σ))
    (content : Field σ → Option Json) :
    membersOf (field :: fields) content =
      field.emit ((content field).getD .null) ++ membersOf fields content :=
  List.flatMap_cons

/-- Only the contents of the fields matter. -/
theorem membersOf_congr {σ : Type} {fields : List (Field σ)} {first second : Field σ → Option Json}
    (same : ∀ field ∈ fields, first field = second field) :
    membersOf fields first = membersOf fields second := by
  induction fields with
  | nil => rfl
  | cons field rest ih =>
    obtain ⟨here, there⟩ := List.forall_mem_cons.mp same
    rw [membersOf_cons, membersOf_cons, here, ih there]

/-- Members of a record have the names of its fields. -/
theorem name_of_mem_membersOf {σ : Type} {fields : List (Field σ)}
    {content : Field σ → Option Json} {member : String × Json}
    (found : member ∈ membersOf fields content) :
    ∃ field ∈ fields, member = (field.name, (content field).getD .null) := by
  obtain ⟨field, hfield, emitted⟩ := List.mem_flatMap.mp found
  unfold Field.emit at emitted
  split at emitted
  · exact absurd emitted List.not_mem_nil
  · exact ⟨field, hfield, List.mem_singleton.mp emitted⟩

/-- A member of a record has the content of its field, unless that is a `null` to be left
out. -/
theorem get?_membersOf {σ : Type} {fields : List (Field σ)}
    (distinct : (fields.map Field.name).Nodup) (content : Field σ → Option Json) {field : Field σ}
    (found : field ∈ fields) :
    (Json.ofPairs (membersOf fields content)).get? field.name =
      if field.omitNull && ((content field).getD .null).isNull then none
      else some ((content field).getD .null) := by
  change Members.get? (Members.ofPairs _) _ = _
  rw [Members.get?_ofPairs]
  induction fields with
  | nil => exact absurd found List.not_mem_nil
  | cons head rest ih =>
    obtain ⟨other, distinct⟩ := List.nodup_cons.mp distinct
    rw [membersOf_cons, List.reverse_append, List.lookup_append]
    rcases List.mem_cons.mp found with rfl | there
    · have behind : (membersOf rest content).reverse.lookup field.name = none := by
        rw [List.lookup_eq_none_iff]
        intro member hmember
        obtain ⟨last, hlast, rfl⟩ := name_of_mem_membersOf (List.mem_reverse.mp hmember)
        have unlike : field.name ≠ last.name := fun same => other (same ▸ List.mem_map_of_mem hlast)
        exact bne_iff_ne.mpr unlike
      rw [behind, Option.none_or, Field.emit]
      split
      · rfl
      · simp
    · have unlike : field.name ≠ head.name := fun same => other (same ▸ List.mem_map_of_mem there)
      have before : (head.emit ((content head).getD .null)).reverse.lookup field.name = none := by
        unfold Field.emit
        split
        · rfl
        · simp [List.lookup_cons, beq_eq_false_iff_ne.mpr unlike]
      rw [ih distinct there, before, Option.or_none]

/-- If `null`s are to be left out, the member is there if its content counts. -/
theorem get?_membersOf_of_omits {σ : Type} {fields : List (Field σ)}
    (distinct : (fields.map Field.name).Nodup) (content : Field σ → Option Json) {field : Field σ}
    (found : field ∈ fields) (omits : field.omitNull = true) :
    (Json.ofPairs (membersOf fields content)).get? field.name = present (content field) := by
  rw [get?_membersOf distinct content found, omits, Bool.true_and]
  cases content field with
  | none => rfl
  | some json => cases json <;> rfl

/-- Otherwise it is there with its content. -/
theorem get?_membersOf_of_keeps {σ : Type} {fields : List (Field σ)}
    (distinct : (fields.map Field.name).Nodup) {content : Field σ → Option Json} {field : Field σ}
    (found : field ∈ fields) (keeps : field.omitNull = false) {value : Json}
    (holds : content field = some value) :
    (Json.ofPairs (membersOf fields content)).get? field.name = some value := by
  rw [get?_membersOf distinct content found, keeps, Bool.false_and, if_neg Bool.false_ne_true,
    holds, Option.getD_some]

/-! ## Contents -/

variable {place : Place} {name : String} {found : Option Json} {value : Json}

/-- An integer is its own content if it fits its type. -/
theorem content_integer_iff {type : IntegerType} :
    (Field.required name (.integer type)).content place found = some value ↔
      found = some value ∧ ∃ number, value = .ofInt number ∧ type.holds number = true := by
  cases found with
  | none => simp [Field.content, Field.required, Field.default?]
  | some json =>
    simp only [Field.content, Field.required, Option.some.injEq]
    rw [Shape.check]
    unfold checkInteger
    split
    · next number =>
      constructor
      · intro h
        split at h
        · next fits => cases h; exact ⟨rfl, number, rfl, fits⟩
        · cases h
      · rintro ⟨rfl, other, same, fits⟩
        cases same
        rw [if_pos fits]
        rfl
    · next other =>
      constructor
      · intro h
        cases h
      · rintro ⟨rfl, number, rfl, -⟩
        exact absurd rfl (other number)

/-- A text is its own content. -/
theorem content_text_iff :
    (Field.required name .text).content place found = some value ↔
      found = some value ∧ ∃ text, value = .string text := by
  cases found with
  | none => simp [Field.content, Field.required, Field.default?]
  | some json =>
    simp only [Field.content, Field.required, Option.some.injEq]
    rw [Shape.check]
    cases json with
    | string text =>
      constructor
      · intro h
        cases h
        exact ⟨rfl, text, rfl⟩
      · exact fun h => congrArg some h.1
    | _ =>
      simp only [checkText, Except.toOption, reduceCtorEq, false_iff]
      rintro ⟨rfl, text, same⟩
      cases same

/-- Any value is its own content, and `null` stands for an absent one. -/
theorem content_any :
    (Field.defaulted name .any .null).content place found = some (found.getD .null) := by
  cases found with
  | none => rfl
  | some json => rfl

/-- It counts if the value does. -/
theorem present_content_any (found : Option Json) :
    present ((Field.defaulted name .any .null).content place found) = present found := by
  rw [content_any, present_getD]

/-- For `null` or nothing the content is `null`, and otherwise the value is to be of the
shape. -/
theorem content_optional {shape : Shape} :
    (Field.defaulted name (.optional shape) .null).content place found =
      match present found with
      | none => some .null
      | some json => (shape.check place json).toOption := by
  cases found with
  | none => rfl
  | some json => cases json <;> rfl

/-- A text, `null` or nothing is the content of an optional text. -/
theorem content_text {text : Option String} (h : present found = text.map .string) :
    (Field.defaulted name (.optional .text) .null).content place found =
      some ((text.map .string).getD .null) := by
  rw [content_optional, h]
  cases text with
  | none => rfl
  | some text =>
    change (Shape.check place .text (.string text)).toOption = _
    rw [Shape.check]
    rfl

/-- Nothing else is. -/
theorem exists_text_of_content
    (h : ((Field.defaulted name (.optional .text) .null).content place found).isSome) :
    ∃ text : Option String, present found = text.map .string := by
  rw [content_optional] at h
  split at h
  · next absent => exact ⟨none, absent⟩
  · next json there =>
    cases json with
    | string text => exact ⟨some text, there⟩
    | _ =>
      rw [Shape.check] at h
      cases h

section Found

variable {fields : List (Field Shape)} (distinct : (fields.map Field.name).Nodup)
  {find : String → Option Json}

include distinct

/-- An optional value of any kind is there if the value found counts. -/
theorem get?_any (found : Field.defaulted name .any .null ∈ fields) :
    (Json.ofPairs (membersOf fields fun field => field.content place (find field.name))).get? name =
      present (find name) :=
  (get?_membersOf_of_omits distinct _ found rfl).trans (present_content_any _)

/-- An optional text is there if one was found. -/
theorem get?_text (found : Field.defaulted name (.optional .text) .null ∈ fields)
    {text : Option String} (h : present (find name) = text.map .string) :
    (Json.ofPairs (membersOf fields fun field => field.content place (find field.name))).get? name =
      text.map .string := by
  have there := get?_membersOf_of_omits distinct
    (fun field => field.content place (find field.name)) found rfl
  refine there.trans ((congrArg present (content_text h)).trans ?_)
  cases text <;> rfl

end Found

/-! ## Checking records -/

/-- A result that is only rewrapped. -/
theorem map_eq_ok_iff {ε α β : Type} {result : Except ε α} {wrap : α → β} {value : β} :
    result.map wrap = .ok value ↔ ∃ found, result = .ok found ∧ wrap found = value := by
  cases result with
  | error fault => simp [Except.map]
  | ok found => simp [Except.map]

/-- Among fields of distinct names a field is found by its name. -/
theorem find?_name {σ : Type} {fields : List (Field σ)}
    (distinct : (fields.map Field.name).Nodup) {field : Field σ} (found : field ∈ fields) :
    (fields.find? fun other => other.name == field.name) = some field := by
  induction fields with
  | nil => exact absurd found List.not_mem_nil
  | cons head rest ih =>
    obtain ⟨other, distinct⟩ := List.nodup_cons.mp distinct
    rw [List.find?_cons]
    rcases List.mem_cons.mp found with rfl | there
    · simp
    · have unlike : head.name ≠ field.name := fun same => other (same ▸ List.mem_map_of_mem there)
      rw [beq_eq_false_iff_ne.mpr unlike]
      exact ih distinct there

variable {fields : List (Field Shape)}

/-- A member is checked against the field of its name. -/
theorem checkNamed_eq (place : Place) (fields : List (Field Shape)) (name : String) (json : Json) :
    checkNamed place fields name json =
      (fields.find? fun field => field.name == name).map fun field =>
        field.shape.check place json := by
  induction fields with
  | nil => rfl
  | cons field rest ih =>
    rw [checkNamed, List.find?_cons]
    cases field.name == name
    · exact ih
    · rfl

/-- Nothing is wrong with a member that is known. -/
def Passes (check : MemberCheck) (member : String × Json) : Prop :=
  ∀ mismatch, check member.1 member.2 ≠ some (.error mismatch)

/-- The members that are known, in their canonical form. -/
def canonicalMembers (check : MemberCheck) (members : Members) : Members :=
  members.filterMap fun member =>
    ((check member.1 member.2).bind Except.toOption).map (member.1, ·)

/-- Members are checked without a mismatch exactly if nothing is wrong with any of them, and
then those that are known stand there in their canonical form. -/
theorem checkMembers_eq_ok_iff {check : MemberCheck} {members known : Members} :
    (∃ other, checkMembers check members = .ok (known, other)) ↔
      (∀ member ∈ members, Passes check member) ∧ known = canonicalMembers check members := by
  induction members generalizing known with
  | nil => simp [checkMembers, canonicalMembers, eq_comm]
  | cons member rest ih =>
    obtain ⟨key, json⟩ := member
    rw [checkMembers, List.forall_mem_cons, canonicalMembers, List.filterMap_cons]
    cases checked : check key json with
    | none =>
      have here : Passes check (key, json) := fun mismatch => by simp [checked]
      rw [and_iff_right here]
      refine Iff.trans ?_ ih
      constructor
      · rintro ⟨other, h⟩
        obtain ⟨⟨found, left⟩, hrest, same⟩ := map_eq_ok_iff.mp h
        cases same
        exact ⟨left, hrest⟩
      · rintro ⟨other, h⟩
        exact ⟨(key, json) :: other, map_eq_ok_iff.mpr ⟨_, h, rfl⟩⟩
    | some result =>
      cases result with
      | error mismatch =>
        have here : ¬ Passes check (key, json) := fun passes => passes mismatch checked
        simp [here]
      | ok value =>
        have here : Passes check (key, json) := fun mismatch => by simp [checked]
        rw [and_iff_right here]
        constructor
        · rintro ⟨other, h⟩
          obtain ⟨⟨found, left⟩, hrest, same⟩ := map_eq_ok_iff.mp h
          cases same
          obtain ⟨others, rfl⟩ := ih.mp ⟨_, hrest⟩
          exact ⟨others, rfl⟩
        · rintro ⟨others, rfl⟩
          obtain ⟨other, hrest⟩ := ih.mpr ⟨others, rfl⟩
          exact ⟨other, map_eq_ok_iff.mpr ⟨_, hrest, rfl⟩⟩

/-- Of members with ascending keys, those that are known are found in their canonical form. -/
theorem get?_canonicalMembers {members : Members} (ascending : members.Ascending)
    (check : MemberCheck) (name : String) :
    (canonicalMembers check members).get? name =
      (members.get? name).bind fun json => (check name json).bind Except.toOption := by
  induction members with
  | nil => rfl
  | cons member rest ih =>
    obtain ⟨key, json⟩ := member
    obtain ⟨below, others⟩ := List.pairwise_cons.mp ascending
    have once : Members.get? rest key = none := by
      by_contra again
      obtain ⟨value, found⟩ := Option.ne_none_iff_exists'.mp again
      exact String.lt_irrefl key (below _ (Members.mem_of_get? found))
    have later : Members.get? (canonicalMembers check rest) name =
        (Members.get? rest name).bind fun json => (check name json).bind Except.toOption :=
      ih others
    rw [Members.get?_cons, canonicalMembers, List.filterMap_cons]
    cases canonical : (check key json).bind Except.toOption with
    | none =>
      simp only [Option.map_none]
      rw [canonicalMembers] at later
      rw [later]
      split
      · next same => simp [same, once, canonical]
      · rfl
    | some value =>
      simp only [Option.map_some]
      rw [Members.get?_cons, ← canonicalMembers, later]
      split
      · next same => simp [same, canonical]
      · rfl

/-- One more field is put in front exactly if it holds something and the others are there. -/
theorem emit_append_eq_ok_iff {σ : Type} {field : Field σ} {content : Option Json} {value : Json}
    (holds : content = some value) {result : Except Mismatch (List (String × Json))}
    {filled : Prop} {others : List (String × Json)}
    (further : ∀ list, result = .ok list ↔ filled ∧ list = others)
    {list : List (String × Json)} :
    result.map (field.emit value ++ ·) = .ok list ↔
      (content.isSome ∧ filled) ∧ list = field.emit (content.getD .null) ++ others := by
  rw [map_eq_ok_iff, holds, Option.isSome_some, and_iff_right rfl, Option.getD_some]
  constructor
  · rintro ⟨found, hresult, rfl⟩
    obtain ⟨filled, rfl⟩ := (further found).mp hresult
    exact ⟨filled, rfl⟩
  · rintro ⟨filled, rfl⟩
    exact ⟨_, (further others).mpr ⟨filled, rfl⟩, rfl⟩

/-! ## Absent members -/

/-- What a field of a record holds, given the members that are known. -/
def held {σ : Type} (known : Members) (field : Field σ) : Option Json :=
  (known.get? field.name).or field.default?

/-- A field that does not stand for `null` holds something exactly if it may be absent or is
there. -/
theorem held_isSome_iff {σ : Type} {known : Members} {field : Field σ}
    (strict : field.absent ≠ .null) :
    (held known field).isSome ↔ (field.absent = .missing → (known.get? field.name).isSome) := by
  unfold held Field.default?
  cases absent : field.absent with
  | missing => simp
  | null => exact absurd absent strict
  | default value => simp

/-- The absent members are filled in exactly if those are there that have to be, and then every
field is there with what it holds. -/
theorem fillAbsent_eq_ok_iff {σ : Type} {known : Members} {fields : List (Field σ)}
    {list : List (String × Json)} :
    fillAbsent known fields = .ok list ↔
      (∀ field ∈ fields, field.absent = .missing → (known.get? field.name).isSome) ∧
        list = membersOf fields (held known) := by
  induction fields generalizing list with
  | nil =>
    constructor
    · rintro ⟨⟩
      exact ⟨by simp, rfl⟩
    · rintro ⟨-, rfl⟩
      rfl
  | cons field rest ih =>
    rw [fillAbsent, List.forall_mem_cons, membersOf_cons]
    have further (value : Json) (holds : (held known field).getD .null = value) :
        (fillAbsent known rest).map (field.emit value ++ ·) = .ok list ↔
          (∀ field ∈ rest, field.absent = .missing → (known.get? field.name).isSome) ∧
            list = field.emit ((held known field).getD .null) ++ membersOf rest (held known) := by
      rw [map_eq_ok_iff, holds]
      constructor
      · rintro ⟨found, rest, rfl⟩
        obtain ⟨filled, rfl⟩ := ih.mp rest
        exact ⟨filled, rfl⟩
      · rintro ⟨filled, rfl⟩
        exact ⟨_, ih.mpr ⟨filled, rfl⟩, rfl⟩
    split
    · next value found => rw [further value (by simp [held, found])]; simp [found]
    · next found absent => simp [found, absent]
    · next found absent =>
      rw [further .null (by simp [held, Field.default?, found, absent])]
      simp [absent]
    · next value found absent =>
      rw [further value (by simp [held, Field.default?, found, absent])]
      simp [absent]

/-- Of the members of an object that nothing is wrong with, the fields hold their contents. -/
theorem held_canonicalMembers {members : Members} (ascending : members.Ascending)
    (distinct : (fields.map Field.name).Nodup) {field : Field Shape} (found : field ∈ fields)
    (passing : ∀ member ∈ members, Passes (checkNamed place fields) member) :
    held (canonicalMembers (checkNamed place fields) members) field =
      field.content place (members.get? field.name) := by
  have named (json : Json) : checkNamed place fields field.name json =
      some (field.shape.check place json) := by
    rw [checkNamed_eq, find?_name distinct found]
    rfl
  have content : (canonicalMembers (checkNamed place fields) members).get? field.name =
      (members.get? field.name).bind fun json => (field.shape.check place json).toOption := by
    rw [get?_canonicalMembers ascending]
    simp only [named]
    rfl
  rw [held, content]
  cases there : members.get? field.name with
  | none => exact Option.none_or
  | some json =>
    cases checked : field.shape.check place json with
    | error mismatch =>
      have wrong : checkNamed place fields field.name json = some (.error mismatch) := by
        rw [named, checked]
      exact absurd wrong (passing _ (Members.mem_of_get? there) mismatch)
    | ok value => simp [Field.content, checked, Except.toOption]

/-- Nothing is wrong with the members of an object whose fields all have contents. -/
theorem passes_of_content {members : Members} (ascending : members.Ascending)
    (contents : ∀ field ∈ fields, (field.content place (members.get? field.name)).isSome)
    {member : String × Json} (found : member ∈ members) :
    Passes (checkNamed place fields) member := by
  intro mismatch wrong
  rw [checkNamed_eq, Option.map_eq_some_iff] at wrong
  obtain ⟨field, known, failed⟩ := wrong
  have same : field.name = member.1 := by simpa using List.find?_some known
  have there : members.get? field.name = some member.2 := by
    rw [same]
    exact ascending.get?_of_mem found
  have filled := contents field (List.mem_of_find?_eq_some known)
  simp [there, Field.content, failed, Except.toOption] at filled

/-! ## Arrays -/

/-- Each field finds the element at its place. -/
def Placed (fields : List (Field Shape)) (items : List Json) (found : String → Option Json) :
    Prop :=
  ∀ (index : Nat) (field : Field Shape), fields[index]? = some field →
    found field.name = items[index]?

/-- The fields of distinct names find the elements of an array as members. -/
theorem placed_member? (distinct : (fields.map Field.name).Nodup) (items : List Json) :
    Placed fields items (member? (fields.map Field.name) (.array items)) := by
  intro index field here
  obtain ⟨within, same⟩ := List.getElem?_eq_some_iff.mp here
  have within : index < (fields.map Field.name).length := by simpa using within
  have place : (fields.map Field.name).idxOf field.name = index := by
    rw [← same, ← List.getElem_map Field.name (h := within)]
    exact distinct.idxOf_getElem index within
  rw [member?, place]

/-- Behind the first field, each finds the element at its place behind the first. -/
theorem Placed.tail {field : Field Shape} {items : List Json} {found : String → Option Json}
    (placed : Placed (field :: fields) items found) : Placed fields items.tail found := by
  intro index other there
  rw [placed (index + 1) other there, List.getElem?_tail]

/-- The elements of an array are checked without a mismatch exactly if there are not too many of
them and every field has a content. -/
theorem checkOrdered_eq_ok_iff {name : String} {count length taken : Nat} {items : List Json}
    {found : String → Option Json} (placed : Placed fields items found)
    {list : List (String × Json)} :
    checkOrdered place name count length taken fields items = .ok list ↔
      ((∀ field ∈ fields, (field.content place (found field.name)).isSome) ∧
        items.length ≤ fields.length) ∧
      list = membersOf fields fun field => field.content place (found field.name) := by
  induction fields generalizing taken items list with
  | nil =>
    cases items with
    | nil =>
      constructor
      · rintro ⟨⟩
        exact ⟨by simp, rfl⟩
      · rintro ⟨-, rfl⟩
        rfl
    | cons json rest => simp [checkOrdered]
  | cons field fields ih =>
    have first : found field.name = items[0]? := placed 0 field rfl
    have further (list : List (String × Json)) :
        checkOrdered place name count length (taken + 1) fields items.tail = .ok list ↔
          ((∀ field ∈ fields, (field.content place (found field.name)).isSome) ∧
            items.tail.length ≤ fields.length) ∧
          list = membersOf fields fun field => field.content place (found field.name) :=
      ih placed.tail
    obtain ⟨key, shape, absent, omitNull⟩ := field
    rw [List.forall_mem_cons, membersOf_cons, and_assoc (c := items.length ≤ _)]
    cases items with
    | nil =>
      simp only [List.tail_nil, List.length_nil, Nat.zero_le] at further ⊢
      cases absent with
      | missing | null => simp [checkOrdered, first, Field.content, Field.default?]
      | default value =>
        rw [checkOrdered]
        have content : Field.content place ⟨key, shape, .default value, omitNull⟩ (found key) =
            some value := by
          rw [first]
          rfl
        exact emit_append_eq_ok_iff content further
    | cons json rest =>
      rw [checkOrdered]
      simp only [List.length_cons, Nat.add_le_add_iff_right]
      split
      · next mismatch failed => simp [first, Field.content, failed, Except.toOption]
      · next value passed =>
        have content : Field.content place ⟨key, shape, absent, omitNull⟩ (found key) =
            some value := by
          simp [first, Field.content, passed, Except.toOption]
        exact emit_append_eq_ok_iff content further

/-! ## Records -/

/-- A record whose fields have distinct names and never stand for `null` is read exactly of a
value all of whose members are as their fields say, and as the record of their contents. -/
theorem check_record_eq_ok_iff (strict : ∀ field ∈ fields, field.absent ≠ .null)
    (distinct : (fields.map Field.name).Nodup) {name : String} {json record : Json}
    (ascend : json.KeysAscend) :
    Shape.check place (.record name fields) json = .ok record ↔
      IsRecord (fields.map Field.name) json ∧
      (∀ field ∈ fields, (field.content place
        (json.member? (fields.map Field.name) field.name)).isSome) ∧
      record = Json.ofPairs (membersOf fields fun field => field.content place
        (json.member? (fields.map Field.name) field.name)) := by
  rw [Shape.check, map_eq_ok_iff]
  cases json with
  | object members =>
    have ascending : Members.Ascending members := ascend members rfl
    have same (passing : ∀ member ∈ members, Passes (checkNamed place fields) member) :
        ∀ field ∈ fields, held (canonicalMembers (checkNamed place fields) members) field =
          field.content place (Members.get? members field.name) :=
      fun field found => held_canonicalMembers ascending distinct found passing
    rw [checkRecord, IsRecord, true_and]
    constructor
    · rintro ⟨list, checked, rfl⟩
      split at checked
      · cases checked
      · next known other passed =>
        obtain ⟨passing, rfl⟩ := checkMembers_eq_ok_iff.mp ⟨other, passed⟩
        obtain ⟨filled, rfl⟩ := fillAbsent_eq_ok_iff.mp checked
        refine ⟨fun field found => ?_, ?_⟩
        · exact same passing field found ▸
            (held_isSome_iff (strict field found)).mpr (filled field found)
        · exact congrArg Json.ofPairs (membersOf_congr (same passing))
    · rintro ⟨contents, rfl⟩
      have passing : ∀ member ∈ members, Passes (checkNamed place fields) member :=
        fun member found => passes_of_content ascending contents found
      obtain ⟨other, passed⟩ := checkMembers_eq_ok_iff.mpr ⟨passing, rfl⟩
      refine ⟨_, ?_, rfl⟩
      rw [passed]
      refine fillAbsent_eq_ok_iff.mpr ⟨fun field found => ?_, ?_⟩
      · refine (held_isSome_iff (strict field found)).mp ?_
        exact (same passing field found).symm ▸ contents field found
      · exact (membersOf_congr (same passing)).symm
  | array items =>
    have placed := placed_member? distinct items
    rw [checkRecord, IsRecord, List.length_map]
    constructor
    · rintro ⟨list, checked, rfl⟩
      obtain ⟨⟨contents, short⟩, rfl⟩ := (checkOrdered_eq_ok_iff placed).mp checked
      exact ⟨short, contents, rfl⟩
    · rintro ⟨short, contents, rfl⟩
      exact ⟨_, (checkOrdered_eq_ok_iff placed).mpr ⟨⟨contents, short⟩, rfl⟩, rfl⟩
  | _ => simp [checkRecord, IsRecord]

/-! ## Members that have to be there -/

/-- What a result leaves is its value. -/
theorem eq_ok_of_toOption {ε α : Type} {result : Except ε α} {value : α}
    (left : result.toOption = some value) : result = .ok value := by
  cases result with
  | error fault => cases left
  | ok found => exact congrArg Except.ok (Option.some.inj left)

/-- A member that is known is of the shape of its field. -/
theorem check_of_get?_known (distinct : (fields.map Field.name).Nodup)
    {members known other : Members}
    (passed : checkMembers (checkNamed place fields) members = .ok (known, other))
    {field : Field Shape} (found : field ∈ fields) {value : Json}
    (there : known.get? field.name = some value) :
    ∃ raw, field.shape.check place raw = .ok value := by
  obtain ⟨-, rfl⟩ := checkMembers_eq_ok_iff.mp ⟨other, passed⟩
  obtain ⟨⟨key, raw⟩, -, emitted⟩ := List.mem_filterMap.mp (Members.mem_of_get? there)
  obtain ⟨_, canonical, same⟩ := Option.map_eq_some_iff.mp emitted
  cases same
  rw [checkNamed_eq, find?_name distinct found] at canonical
  exact ⟨raw, eq_ok_of_toOption canonical⟩

/-- A field that must not be absent holds a value of its shape. -/
theorem check_of_fillAbsent (distinct : (fields.map Field.name).Nodup)
    {members known other : Members}
    (passed : checkMembers (checkNamed place fields) members = .ok (known, other))
    {list : List (String × Json)} (filled : fillAbsent known fields = .ok list)
    {field : Field Shape} (found : field ∈ fields) (needed : field.absent = .missing) :
    ∃ raw value, field.shape.check place raw = .ok value ∧ held known field = some value := by
  obtain ⟨there, -⟩ := fillAbsent_eq_ok_iff.mp filled
  obtain ⟨value, there⟩ := Option.isSome_iff_exists.mp (there field found needed)
  obtain ⟨raw, checked⟩ := check_of_get?_known distinct passed found there
  exact ⟨raw, value, checked, by rw [held, there, Option.some_or]⟩

/-- In a record that was read a member that must not be absent is there with a value of its
shape. -/
theorem check_of_check_record (distinct : (fields.map Field.name).Nodup) {name : String}
    {json record : Json} (checked : Shape.check place (.record name fields) json = .ok record)
    {key : String} {shape : Shape} (found : Field.required key shape ∈ fields) :
    ∃ raw value, shape.check place raw = .ok value ∧ record.get? key = some value := by
  rw [Shape.check, map_eq_ok_iff] at checked
  obtain ⟨list, checked, rfl⟩ := checked
  cases json with
  | object members =>
    rw [checkRecord] at checked
    split at checked
    · cases checked
    · next known other passed =>
      obtain ⟨raw, value, shaped, holds⟩ := check_of_fillAbsent distinct passed checked found rfl
      obtain ⟨-, rfl⟩ := fillAbsent_eq_ok_iff.mp checked
      exact ⟨raw, value, shaped, get?_membersOf_of_keeps distinct found rfl holds⟩
  | array items =>
    obtain ⟨⟨contents, -⟩, rfl⟩ :=
      (checkOrdered_eq_ok_iff (placed_member? distinct items)).mp checked
    obtain ⟨value, holds⟩ := Option.isSome_iff_exists.mp (contents _ found)
    suffices shaped : ∃ raw, shape.check place raw = .ok value by
      obtain ⟨raw, shaped⟩ := shaped
      exact ⟨raw, value, shaped, get?_membersOf_of_keeps distinct found rfl holds⟩
    change Field.content place (.required key shape)
      ((Json.array items).member? (fields.map Field.name) key) = some value at holds
    generalize (Json.array items).member? (fields.map Field.name) key = element at holds
    cases element with
    | none => cases holds
    | some raw => exact ⟨raw, eq_ok_of_toOption holds⟩
  | _ => simp [checkRecord] at checked

/-! ## Records with parts -/

/-- A part takes the members of its fields, and leaves the others to the parts behind it. -/
theorem exists_of_checkParts {name : String} {parts : List (Spread Shape)} {members : Members}
    {list : List (String × Json)}
    (checked : checkParts (.record name fields :: parts) members = .ok list) :
    ∃ known other own rest,
      checkMembers (checkNamed .setApart fields) members = .ok (known, other) ∧
        fillAbsent known fields = .ok own ∧ checkParts parts other = .ok rest ∧
        list = own ++ rest := by
  rw [checkParts] at checked
  split at checked
  · cases checked
  · next known other passed =>
    split at checked
    · cases checked
    · next own filled =>
      obtain ⟨rest, further, rfl⟩ := map_eq_ok_iff.mp checked
      exact ⟨known, other, own, rest, passed, filled, further, rfl⟩

/-- Pairs of other keys do not matter. -/
theorem get?_ofPairs_append {first second : List (String × Json)} {key : String}
    (others : ∀ pair ∈ second, pair.1 ≠ key) :
    (Json.ofPairs (first ++ second)).get? key = (Json.ofPairs first).get? key := by
  have behind : second.reverse.lookup key = none := by
    rw [List.lookup_eq_none_iff]
    intro pair found
    exact bne_iff_ne.mpr (others pair (List.mem_reverse.mp found)).symm
  change Members.get? (Members.ofPairs _) _ = Members.get? (Members.ofPairs _) _
  rw [Members.get?_ofPairs, Members.get?_ofPairs, List.reverse_append, List.lookup_append, behind,
    Option.none_or]

end LspGateway.Json
