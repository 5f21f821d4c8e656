import LspGateway.Json.Reader
import Mathlib.Data.List.Induction

/-!
# Objects with ordered members

A member is put at its place among the others, and replaces an earlier one of the same key.
So the members of an object that is made of pairs have ascending keys, and the last pair of a
key counts. Every value that is read has ordered members throughout.
-/

namespace LspGateway.Json

namespace Members

/-- The keys ascend, so that none stands twice. -/
def Ascending (members : Members) : Prop :=
  members.Pairwise fun first second => first.1 < second.1

variable {members : Members} {key : String} {value : Json}

/-- The value of a key is that of the first member of the key. -/
theorem get?_cons (name : String) (value : Json) (members : Members) (key : String) :
    get? ((name, value) :: members) key = if key = name then some value else get? members key := by
  by_cases same : key = name
  · simp [get?, same]
  · simp [get?, List.lookup_cons, same, beq_eq_false_iff_ne.mpr same]

/-! ## One more member -/

/-- The members after putting one at its place are that one and some of those before. -/
theorem mem_insert {member : String × Json} (h : member ∈ insert key value members) :
    member = (key, value) ∨ member ∈ members := by
  induction members with
  | nil => exact .inl (List.mem_singleton.mp h)
  | cons head rest ih =>
    obtain ⟨other, old⟩ := head
    rw [insert] at h
    split at h
    · rcases List.mem_cons.mp h with here | there
      · exact .inl here
      · exact .inr (List.mem_cons_of_mem _ there)
    · split at h
      · exact List.mem_cons.mp h
      · rcases List.mem_cons.mp h with here | there
        · exact .inr (here ▸ List.mem_cons_self)
        · exact (ih there).imp_right (List.mem_cons_of_mem _)

/-- Its key is given the value, and the others keep theirs. -/
theorem get?_insert (other : String) :
    get? (insert key value members) other =
      if other = key then some value else get? members other := by
  induction members with
  | nil => exact get?_cons key value [] other
  | cons head rest ih =>
    obtain ⟨name, old⟩ := head
    rw [insert, get?_cons]
    split
    · next here =>
      rw [get?_cons, beq_iff_eq.mp here]
      by_cases same : other = name <;> simp [same]
    · next different =>
      split
      · rw [get?_cons, get?_cons]
      · rw [get?_cons, ih]
        by_cases found : other = name
        · have unlike : ¬ name = key := fun same => different (beq_iff_eq.mpr same.symm)
          simp [found, unlike]
        · simp [found]

/-- A member at its place keeps keys ascending. -/
theorem Ascending.insert (h : members.Ascending) (key : String) (value : Json) :
    (insert key value members).Ascending := by
  induction members with
  | nil => exact List.pairwise_singleton _ _
  | cons head rest ih =>
    obtain ⟨other, old⟩ := head
    obtain ⟨below, others⟩ := List.pairwise_cons.mp h
    rw [Members.insert]
    split
    · next same =>
      rw [beq_iff_eq.mp same]
      exact List.pairwise_cons.mpr ⟨below, others⟩
    · next different =>
      split
      · next before =>
        refine List.pairwise_cons.mpr ⟨?_, h⟩
        exact List.forall_mem_cons.mpr
          ⟨before, fun member found => String.lt_trans before (below member found)⟩
      · next behind =>
        have after : other < key :=
          Std.lt_of_le_of_ne (String.not_lt.mp behind)
            fun same => different (beq_iff_eq.mpr same.symm)
        refine List.pairwise_cons.mpr ⟨fun member found => ?_, ih others⟩
        rcases mem_insert found with rfl | there
        · exact after
        · exact below member there

/-- Behind all others a member is put at the end. -/
theorem insert_of_last (last : ∀ member ∈ members, member.1 < key) :
    insert key value members = members ++ [(key, value)] := by
  induction members with
  | nil => rfl
  | cons head rest ih =>
    obtain ⟨other, old⟩ := head
    obtain ⟨here, others⟩ := List.forall_mem_cons.mp last
    have different : (key == other) = false :=
      beq_eq_false_iff_ne.mpr fun same => String.lt_irrefl other (same ▸ here)
    rw [insert, if_neg (Bool.eq_false_iff.mp different), if_neg (String.lt_asymm here), ih others]
    rfl

/-! ## Members of pairs -/

/-- One more pair. -/
theorem ofPairs_concat (pairs : List (String × Json)) (pair : String × Json) :
    ofPairs (pairs ++ [pair]) = insert pair.1 pair.2 (ofPairs pairs) :=
  List.foldl_append

/-- Members of pairs have ascending keys. -/
theorem ascending_ofPairs (pairs : List (String × Json)) : (ofPairs pairs).Ascending := by
  suffices grown : ∀ members : Members, members.Ascending →
      Ascending (pairs.foldl (fun members pair => insert pair.1 pair.2 members) members) from
    grown [] List.Pairwise.nil
  induction pairs with
  | nil => exact fun _ h => h
  | cons pair rest ih => exact fun members h => ih _ (h.insert pair.1 pair.2)

/-- The last pair of a key counts. -/
theorem get?_ofPairs (pairs : List (String × Json)) (key : String) :
    get? (ofPairs pairs) key = pairs.reverse.lookup key := by
  suffices grown : ∀ members : Members,
      get? (pairs.foldl (fun members pair => insert pair.1 pair.2 members) members) key =
        (pairs.reverse.lookup key).or (get? members key) by
    exact (grown []).trans (by simp [get?])
  induction pairs with
  | nil => simp
  | cons pair rest ih =>
    intro members
    have only : List.lookup key [pair] = if key = pair.1 then some pair.2 else none :=
      get?_cons pair.1 pair.2 [] key
    rw [List.foldl_cons, ih, get?_insert, List.reverse_cons, List.lookup_append, Option.or_assoc,
      only]
    by_cases same : key = pair.1 <;> simp [same]

/-- Pairs whose keys ascend are members as they stand. -/
theorem Ascending.ofPairs_eq (h : members.Ascending) : ofPairs members = members := by
  induction members using List.reverseRecOn with
  | nil => rfl
  | append_singleton rest pair ih =>
    obtain ⟨earlier, -, below⟩ := List.pairwise_append.mp h
    rw [ofPairs_concat, ih earlier, insert_of_last]
    exact fun member found => below member found pair (List.mem_singleton_self pair)

/-- A key that ascending members have leads to its member. -/
theorem Ascending.get?_of_mem (h : members.Ascending) (found : (key, value) ∈ members) :
    get? members key = some value := by
  induction members with
  | nil => exact absurd found List.not_mem_nil
  | cons head rest ih =>
    obtain ⟨below, others⟩ := List.pairwise_cons.mp h
    rw [get?_cons]
    rcases List.mem_cons.mp found with here | there
    · rw [← here]
      exact if_pos rfl
    · have before : head.1 < key := below _ there
      have unlike : key ≠ head.1 := (Std.ne_of_lt before).symm
      rw [if_neg unlike, ih others there]

/-- Nothing but a member is found. -/
theorem mem_of_get? (found : get? members key = some value) : (key, value) ∈ members := by
  induction members with
  | nil => cases found
  | cons head rest ih =>
    rw [get?_cons] at found
    split at found
    · next same =>
      rw [same, ← Option.some.inj found]
      exact List.mem_cons_self
    · exact List.mem_cons_of_mem _ (ih found)

end Members

/-! ## Values -/

/-- Every object inside the value has ordered members. -/
inductive Ordered : Json → Prop where
  /-- There is no object in `null`. -/
  | null : Ordered .null
  /-- Nor in a truth value. -/
  | bool (value : Bool) : Ordered (.bool value)
  /-- Nor in a number. -/
  | number (value : Number) : Ordered (.number value)
  /-- Nor in a text. -/
  | string (value : String) : Ordered (.string value)
  /-- All items of an array are ordered. -/
  | array {items : List Json} (each : ∀ item ∈ items, Ordered item) : Ordered (.array items)
  /-- The keys of an object ascend, and all its values are ordered. -/
  | object {members : Members} (ascending : members.Ascending)
      (each : ∀ member ∈ members, Ordered member.2) : Ordered (.object members)

namespace Ordered

/-- The keys of an ordered object ascend. -/
theorem ascending {members : Members} (h : Ordered (.object members)) : members.Ascending := by
  cases h with
  | object ascending _ => exact ascending

/-- The values of an ordered object are ordered. -/
theorem of_get? {members : Members} (h : Ordered (.object members)) {key : String} {value : Json}
    (found : members.get? key = some value) : value.Ordered := by
  cases h with
  | object _ each => exact each _ (Members.mem_of_get? found)

/-- So are the items of an ordered array. -/
theorem of_getElem? {items : List Json} (h : Ordered (.array items)) {index : Nat} {value : Json}
    (found : items[index]? = some value) : value.Ordered := by
  cases h with
  | array each => exact each _ (List.mem_of_getElem? found)

end Ordered

/-! ## Reading -/

namespace Reader

/-- A step whose value is only rewrapped. -/
theorem map_eq_ok {α β : Type} {step : Step α} {wrap : α → β} {value : β} {rest : Bytes}
    (h : (step.map fun (found, rest) => (wrap found, rest)) = .ok (value, rest)) :
    ∃ found, step = .ok (found, rest) ∧ wrap found = value := by
  cases step with
  | error stop => cases h
  | ok result =>
    cases h
    exact ⟨result.1, rfl, rfl⟩

/-- A literal word is read as what it stands for. -/
theorem word_eq_ok {value json : Json} {expected bytes rest : Bytes}
    (h : word value expected bytes = .ok (json, rest)) : json = value := by
  induction expected generalizing bytes with
  | nil =>
    cases h
    rfl
  | cons byte more ih =>
    cases bytes with
    | nil => cases h
    | cons next bytes =>
      rw [word] at h
      split at h
      · exact ih h
      · cases h

/-- The items of an array are what the reader for one item has read. -/
theorem forall_mem_items {item : Bytes → Step Json} {each : Json → Prop}
    (one : ∀ bytes json rest, item bytes = .ok (json, rest) → each json) {fuel : Nat}
    {read list : List Json} {bytes rest : Bytes} (before : ∀ json ∈ read, each json)
    (h : items item fuel read bytes = .ok (list, rest)) : ∀ json ∈ list, each json := by
  induction fuel generalizing read bytes with
  | zero => cases h
  | succ fuel ih =>
    rw [items] at h
    split at h
    · cases h
    · split at h
      · cases h
        exact fun json found => before json (List.mem_reverse.mp found)
      · split at h
        · cases h
        · split at h
          · cases h
          · next value rest hvalue =>
            exact ih (List.forall_mem_cons.mpr ⟨one _ _ _ hvalue, before⟩) h

/-- The value of a member is what the reader for one value has read. -/
theorem member_spec {value : Bytes → Step Json} {each : Json → Prop}
    (one : ∀ bytes json rest, value bytes = .ok (json, rest) → each json) {key : String}
    {json : Json} {bytes rest : Bytes} (h : member value bytes = .ok ((key, json), rest)) :
    each json := by
  unfold member at h
  split at h
  · cases h
  · split at h
    · cases h
    · split at h
      · split at h
        · cases h
        · next found rest hvalue =>
          cases h
          exact one _ _ _ hvalue
      · cases h

/-- The values of members are what the reader for one value has read, and each member is put
at its place. -/
theorem members_spec {value : Bytes → Step Json} {each : Json → Prop}
    (one : ∀ bytes json rest, value bytes = .ok (json, rest) → each json) {fuel : Nat}
    {first : Bool} {read list : Members} {bytes rest : Bytes} (ascending : read.Ascending)
    (before : ∀ member ∈ read, each member.2)
    (h : members value fuel first read bytes = .ok (list, rest)) :
    list.Ascending ∧ ∀ member ∈ list, each member.2 := by
  induction fuel generalizing first read bytes with
  | zero => cases h
  | succ fuel ih =>
    rw [members] at h
    split at h
    · cases h
    · split at h
      · cases h
        exact ⟨ascending, before⟩
      · split at h
        · cases h
        · split at h
          · cases h
          · next key json rest hmember =>
            have read : each json := member_spec one hmember
            refine ih (ascending.insert key json) (fun other found => ?_) h
            rcases Members.mem_insert found with rfl | earlier
            · exact read
            · exact before other earlier

/-- What is read is ordered. -/
theorem value_ordered {depth : Nat} {bytes rest : Bytes} {json : Json}
    (h : value depth bytes = .ok (json, rest)) : json.Ordered := by
  induction depth using Nat.strongRecOn generalizing bytes rest json with
  | ind depth ih =>
    unfold value at h
    split at h
    · cases h
    · exact word_eq_ok h ▸ .null
    · exact word_eq_ok h ▸ .bool true
    · exact word_eq_ok h ▸ .bool false
    · obtain ⟨found, -, rfl⟩ := map_eq_ok h
      exact .number found
    · obtain ⟨found, -, rfl⟩ := map_eq_ok h
      exact .string found
    · split at h
      · cases h
      · next depth =>
        obtain ⟨list, hlist, rfl⟩ := map_eq_ok h
        have one (bytes : Bytes) (json : Json) (rest : Bytes)
            (h : value depth bytes = .ok (json, rest)) : json.Ordered :=
          ih depth (Nat.lt_succ_self depth) h
        exact .array (forall_mem_items one (by simp) hlist)
    · split at h
      · cases h
      · next depth =>
        obtain ⟨list, hlist, rfl⟩ := map_eq_ok h
        have one (bytes : Bytes) (json : Json) (rest : Bytes)
            (h : value depth bytes = .ok (json, rest)) : json.Ordered :=
          ih depth (Nat.lt_succ_self depth) h
        obtain ⟨ascending, each⟩ := members_spec one List.Pairwise.nil (by simp) hlist
        exact .object ascending each
    · split at h
      · obtain ⟨found, -, rfl⟩ := map_eq_ok h
        exact .number found
      · cases h

end Reader

/-- A text is read as an ordered value. -/
theorem ordered_of_read {text : Bytes} {json : Json} (h : read text = .ok json) :
    json.Ordered := by
  unfold read at h
  split at h
  · cases h
  · next result hvalue =>
    have same : result.1 = json := by
      split at h
      · cases h
      · next found hend =>
        cases h
        unfold Reader.atEnd at hend
        split at hend
        · exact Except.ok.inj hend
        · cases hend
    exact same ▸ Reader.value_ordered hvalue

end LspGateway.Json
