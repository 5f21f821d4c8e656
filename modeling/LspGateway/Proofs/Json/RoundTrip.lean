import LspGateway.Json.Mismatch
import LspGateway.Proofs.Json.Ordered
import LspGateway.Proofs.Json.Printed
import Mathlib.Algebra.Group.Int.Defs
import Mathlib.Algebra.Group.Nat.Defs
import Mathlib.Data.List.Forall2

/-!
# Reading printed values

The compact text of a value is read back as the value, if it has no doubles, its integers fit
64 bits and its containers do not stand too deeply inside each other. Members that are printed
in another order than that of their keys are put in order.
-/

namespace LspGateway.Json

/-! ## Values that are read back -/

/-- Values without doubles, whose integers are read exactly and whose members are in order. -/
inductive Plain : Json → Prop where
  /-- The literal `null`. -/
  | null : Plain .null
  /-- A truth value. -/
  | bool (value : Bool) : Plain (.bool value)
  /-- An integer from `-2 ^ 63` to `2 ^ 64 - 1`. -/
  | integer {value : Int} (low : -2 ^ 63 ≤ value) (high : value < 2 ^ 64) : Plain (.ofInt value)
  /-- A text of any characters. -/
  | string (value : String) : Plain (.string value)
  /-- An array of such values. -/
  | array {items : List Json} (each : ∀ item ∈ items, Plain item) : Plain (.array items)
  /-- An object of such values. -/
  | object {members : Members} (ascending : members.Ascending)
      (each : ∀ member ∈ members, Plain member.2) : Plain (.object members)

mutual

/-- How many containers stand inside each other. -/
def nesting : Json → Nat
  | .array items => nestingItems items + 1
  | .object members => nestingMembers members + 1
  | _ => 0

/-- The deepest nesting of an item. -/
def nestingItems : List Json → Nat
  | [] => 0
  | item :: items => max (nesting item) (nestingItems items)

/-- The deepest nesting of the value of a member. -/
def nestingMembers : List (String × Json) → Nat
  | [] => 0
  | (_, value) :: members => max (nesting value) (nestingMembers members)

end

/-- No item nests deeper than all of them. -/
theorem nesting_le_of_mem_items {items : List Json} {item : Json} (h : item ∈ items) :
    nesting item ≤ nestingItems items := by
  induction items with
  | nil => exact absurd h List.not_mem_nil
  | cons first rest ih =>
    rw [nestingItems]
    rcases List.mem_cons.mp h with rfl | there
    · exact le_max_left _ _
    · exact (ih there).trans (le_max_right _ _)

/-- No value of a member nests deeper than all of them. -/
theorem nesting_le_of_mem_members {members : List (String × Json)} {member : String × Json}
    (h : member ∈ members) : nesting member.2 ≤ nestingMembers members := by
  induction members with
  | nil => exact absurd h List.not_mem_nil
  | cons first rest ih =>
    obtain ⟨key, value⟩ := first
    rw [nestingMembers]
    rcases List.mem_cons.mp h with rfl | there
    · exact le_max_left _ _
    · exact (ih there).trans (le_max_right _ _)

namespace Reader

/-! ## Single values -/

/-- The text of a value is read as another value, whatever follows that does not continue a
number. It does not begin with a blank or a closing bracket. -/
structure ReadsAs (depth : Nat) (json found : Json) : Prop where
  /-- The text begins with a byte that opens a value. -/
  opens : ∃ byte more, Bytes.ofChars json.chars = byte :: more ∧ isSpace byte = false ∧
    (byte == 0x5D) = false
  /-- It is read, and no more. -/
  read (rest : Bytes) : EndsNumber rest →
    value depth (Bytes.ofChars json.chars ++ rest) = .ok (found, rest)

/-- Nothing is skipped before a byte that is no blank. -/
theorem skipSpace_cons {byte : UInt8} (dark : isSpace byte = false) (rest : Bytes) :
    skipSpace (byte :: rest) = byte :: rest :=
  List.dropWhile_cons_of_neg (by simp [dark])

variable {depth : Nat}

/-- The words are read as what they stand for. -/
theorem readsAs_null : ReadsAs depth .null .null := by
  have bytes : Bytes.ofChars (chars .null) = [0x6E, 0x75, 0x6C, 0x6C] :=
    Bytes.ofChars_of_ascii (by decide)
  refine ⟨⟨_, _, bytes, rfl, rfl⟩, fun rest _ => ?_⟩
  rw [bytes, value.eq_def]
  rfl

/-- Truth values are read back. -/
theorem readsAs_bool (b : Bool) : ReadsAs depth (.bool b) (.bool b) := by
  cases b with
  | true =>
    have bytes : Bytes.ofChars (chars (.bool true)) = [0x74, 0x72, 0x75, 0x65] :=
      Bytes.ofChars_of_ascii (by decide)
    refine ⟨⟨_, _, bytes, rfl, rfl⟩, fun rest _ => ?_⟩
    rw [bytes, value.eq_def]
    rfl
  | false =>
    have bytes : Bytes.ofChars (chars (.bool false)) = [0x66, 0x61, 0x6C, 0x73, 0x65] :=
      Bytes.ofChars_of_ascii (by decide)
    refine ⟨⟨_, _, bytes, rfl, rfl⟩, fun rest _ => ?_⟩
    rw [bytes, value.eq_def]
    rfl

/-- Strings are read back. -/
theorem readsAs_string (text : String) : ReadsAs depth (.string text) (.string text) := by
  have bytes : Bytes.ofChars (chars (.string text)) = 0x22 :: quotedTail text := by
    rw [chars, ofChars_stringChars]
  refine ⟨⟨_, _, bytes, rfl, rfl⟩, fun rest _ => ?_⟩
  rw [bytes, value.eq_def]
  change (string (quotedTail text ++ rest)).map _ = _
  rw [string_printed]
  rfl

/-- A digit is no blank. -/
theorem isSpace_of_isDigit {byte : UInt8} (digit : isDigit byte = true) : isSpace byte = false := by
  unfold isSpace
  simp only [Bool.or_eq_false_iff, beq_eq_false_iff_ne]
  refine ⟨⟨⟨?_, ?_⟩, ?_⟩, ?_⟩
  all_goals
    rintro rfl
    exact absurd digit (by decide)

/-- From a digit on a number is read. -/
theorem value_digit {byte : UInt8} (digit : isDigit byte = true) (rest : Bytes) :
    value depth (byte :: rest) =
      (number false (byte :: rest)).map fun (n, rest) => (.number n, rest) := by
  have other {opener : UInt8} {more : Bytes} (same : byte :: rest = opener :: more) :
      isDigit opener = true := by
    rw [← (List.cons.inj same).1]
    exact digit
  rw [value.eq_def]
  simp only [skipSpace_cons (isSpace_of_isDigit digit)]
  split
  · next same => cases same
  · next same => exact absurd (other same) (by decide)
  · next same => exact absurd (other same) (by decide)
  · next same => exact absurd (other same) (by decide)
  · next same => exact absurd (other same) (by decide)
  · next same => exact absurd (other same) (by decide)
  · next same => exact absurd (other same) (by decide)
  · next same => exact absurd (other same) (by decide)
  · next same =>
    cases same
    exact if_pos digit

/-- Integers of 64 bits are read back. -/
theorem readsAs_integer {n : Int} (low : -2 ^ 63 ≤ n) (high : n < 2 ^ 64) :
    ReadsAs depth (.ofInt n) (.ofInt n) := by
  cases n with
  | ofNat n =>
    have bytes : Bytes.ofChars (chars (.ofInt (.ofNat n))) = Bytes.ofChars (Nat.toDigits 10 n) := by
      rfl
    have fits : n ≤ maxSignificand := by
      have bound : (n : Int) < 2 ^ 64 := high
      unfold maxSignificand
      omega
    obtain ⟨c, more, front⟩ := List.exists_cons_of_ne_nil (Nat.toDigits_ne_nil (n := n) (b := 10))
    have first : c.isDigit = true :=
      Nat.isDigit_of_mem_toDigits (by decide) (by decide) (front ▸ List.mem_cons_self)
    obtain ⟨ascii, digit, -⟩ := isDigit_toUInt8 first
    have opened : Bytes.ofChars (Nat.toDigits 10 n) = c.toUInt8 :: Bytes.ofChars more := by
      rw [front, Bytes.ofChars_cons ascii]
    have noBracket : (c.toUInt8 == 0x5D) = false := by
      refine beq_eq_false_iff_ne.mpr fun same => ?_
      rw [same] at digit
      exact absurd digit (by decide)
    refine ⟨⟨_, _, bytes.trans opened, isSpace_of_isDigit digit, noBracket⟩, fun rest ends => ?_⟩
    obtain ⟨taken, read⟩ := number_toDigits fits ends false
    rw [opened] at read
    rw [bytes, opened, List.cons_append, value_digit digit, ← List.cons_append, read]
    rfl
  | negSucc n =>
    have bytes : Bytes.ofChars (chars (.ofInt (.negSucc n))) =
        0x2D :: Bytes.ofChars (Nat.toDigits 10 (n + 1)) :=
      Bytes.ofChars_cons (by decide) _
    have fits : n + 1 ≤ 0x8000000000000000 := by
      have bound : -2 ^ 63 ≤ -((n : Int) + 1) := low
      omega
    refine ⟨⟨_, _, bytes, rfl, rfl⟩, fun rest ends => ?_⟩
    have small : n + 1 ≤ maxSignificand := by
      unfold maxSignificand
      omega
    obtain ⟨taken, read⟩ := number_toDigits small ends true
    rw [bytes, value.eq_def]
    change (number true (Bytes.ofChars (Nat.toDigits 10 (n + 1)) ++ rest)).map _ = _
    rw [read, wholeNumber_negative (Nat.succ_pos n) fits]
    rfl

/-! ## Arrays -/

/-- Behind the last item stands the bracket. -/
theorem ofChars_itemChars_nil : Bytes.ofChars (itemChars []) = [0x5D] :=
  Bytes.ofChars_of_ascii (by decide)

/-- In front of each further item stands a comma. -/
theorem ofChars_itemChars_cons (item : Json) (items : List Json) :
    Bytes.ofChars (itemChars (item :: items)) =
      0x2C :: (Bytes.ofChars item.chars ++ Bytes.ofChars (itemChars items)) := by
  rw [itemChars, Bytes.ofChars_cons (by decide), Bytes.ofChars_append]
  rfl

/-- Each item has some bytes. -/
theorem length_lt_itemChars (items : List Json) :
    items.length < (Bytes.ofChars (itemChars items)).length := by
  induction items with
  | nil => simp [ofChars_itemChars_nil]
  | cons item items ih =>
    rw [ofChars_itemChars_cons, List.length_cons, List.length_cons, List.length_append]
    omega

/-- What follows an item does not continue a number. -/
theorem endsNumber_itemChars (items : List Json) (rest : Bytes) :
    EndsNumber (Bytes.ofChars (itemChars items) ++ rest) := by
  cases items with
  | nil =>
    rw [ofChars_itemChars_nil]
    exact ⟨rfl, rfl, rfl⟩
  | cons item items =>
    rw [ofChars_itemChars_cons]
    exact ⟨rfl, rfl, rfl⟩

/-- The first item starts at once. -/
theorem separated_first (byte : UInt8) (rest : Bytes) :
    items.separated true byte rest = .ok ((), byte :: rest) :=
  rfl

/-- Behind a comma the next item starts. -/
theorem separated_item {byte : UInt8} (dark : isSpace byte = false)
    (noBracket : (byte == 0x5D) = false) (more : Bytes) :
    items.separated false 0x2C (byte :: more) = .ok ((), byte :: more) := by
  unfold items.separated
  simp only [Bool.false_eq_true, if_false, beq_self_eq_true, if_true, skipSpace_cons dark]
  split
  · next same => cases same
  · next same => exact absurd (beq_iff_eq.mpr (List.cons.inj same).1) (by simp [noBracket])
  · rfl

/-- A printed item is read, up to what follows it. -/
theorem item_printed {item found : Json} (h : ReadsAs depth item found) {byte : UInt8}
    {more : Bytes} (opened : Bytes.ofChars item.chars = byte :: more) (list : List Json)
    (rest : Bytes) :
    value depth (byte :: (more ++ (Bytes.ofChars (itemChars list) ++ rest))) =
      .ok (found, Bytes.ofChars (itemChars list) ++ rest) := by
  rw [← List.cons_append, ← opened]
  exact h.read _ (endsNumber_itemChars list rest)

/-- The items behind the first are read one after the other. -/
theorem items_printed {list founds : List Json} (each : List.Forall₂ (ReadsAs depth) list founds)
    {fuel : Nat} (enough : list.length < fuel) {read : List Json} (filled : read.isEmpty = false)
    (rest : Bytes) :
    items (value depth) fuel read (Bytes.ofChars (itemChars list) ++ rest) =
      .ok (read.reverse ++ founds, rest) := by
  induction each generalizing fuel read with
  | nil =>
    obtain ⟨fuel, rfl⟩ := Nat.exists_eq_succ_of_ne_zero (Nat.ne_zero_of_lt enough)
    rw [ofChars_itemChars_nil, List.append_nil]
    rfl
  | @cons item found list founds first others ih =>
    obtain ⟨fuel, rfl⟩ := Nat.exists_eq_succ_of_ne_zero (Nat.ne_zero_of_lt enough)
    obtain ⟨byte, more, opened, dark, noBracket⟩ := first.opens
    have within : list.length < fuel := by
      rw [List.length_cons] at enough
      omega
    rw [ofChars_itemChars_cons, opened, List.cons_append, List.append_assoc, List.cons_append,
      items, skipSpace_cons rfl]
    simp only [filled]
    rw [if_neg (by decide), separated_item dark noBracket]
    simp only [item_printed first opened]
    rw [ih within rfl, List.reverse_cons, List.append_assoc, List.singleton_append]

/-- An array is read as the array of what its items are read as. -/
theorem readsAs_array {list founds : List Json} (each : List.Forall₂ (ReadsAs depth) list founds) :
    ReadsAs (depth + 1) (.array list) (.array founds) := by
  cases each with
  | nil =>
    have bytes : Bytes.ofChars (chars (.array [])) = [0x5B, 0x5D] :=
      Bytes.ofChars_of_ascii (by decide)
    refine ⟨⟨_, _, bytes, rfl, rfl⟩, fun rest _ => ?_⟩
    rw [bytes, value.eq_def]
    rfl
  | @cons item found list founds first others =>
    have bytes : Bytes.ofChars (chars (.array (item :: list))) =
        0x5B :: (Bytes.ofChars item.chars ++ Bytes.ofChars (itemChars list)) := by
      rw [chars, Bytes.ofChars_cons (by decide), Bytes.ofChars_append]
      rfl
    refine ⟨⟨_, _, bytes, rfl, rfl⟩, fun rest _ => ?_⟩
    obtain ⟨byte, more, opened, dark, noBracket⟩ := first.opens
    have inside (fuel : Nat) (enough : list.length < fuel) :
        items (value depth) (fuel + 1) []
          (byte :: (more ++ (Bytes.ofChars (itemChars list) ++ rest))) =
        .ok (found :: founds, rest) := by
      rw [items, skipSpace_cons dark]
      simp only [noBracket, Bool.false_eq_true, if_false, List.isEmpty_nil, separated_first,
        item_printed first opened]
      exact items_printed others enough rfl rest
    have enough := length_lt_itemChars list
    rw [bytes, opened, List.cons_append, List.cons_append, List.cons_append, List.append_assoc,
      value.eq_def]
    change (items (value depth) (_ + 1) [] _).map _ = _
    rw [inside]
    · rfl
    · simp only [List.length_cons, List.length_append]
      omega

/-! ## Objects -/

/-- A member is read as one of the same key. -/
def MemberReadsAs (depth : Nat) (member found : String × Json) : Prop :=
  found.1 = member.1 ∧ ReadsAs depth member.2 found.2

/-- Behind the last member stands the brace. -/
theorem ofChars_memberChars_nil : Bytes.ofChars (memberChars []) = [0x7D] :=
  Bytes.ofChars_of_ascii (by decide)

/-- The bytes of a member, its key first. -/
theorem ofChars_member (key : String) (json : Json) (more : List Char) :
    Bytes.ofChars (stringChars key ++ ':' :: (json.chars ++ more)) =
      0x22 :: (quotedTail key ++ 0x3A :: (Bytes.ofChars json.chars ++ Bytes.ofChars more)) := by
  rw [Bytes.ofChars_append, ofChars_stringChars, Bytes.ofChars_cons (by decide),
    Bytes.ofChars_append]
  rfl

/-- In front of each further member stands a comma. -/
theorem ofChars_memberChars_cons (member : String × Json) (members : List (String × Json)) :
    Bytes.ofChars (memberChars (member :: members)) =
      0x2C :: 0x22 :: (quotedTail member.1 ++
        0x3A :: (Bytes.ofChars member.2.chars ++ Bytes.ofChars (memberChars members))) := by
  rw [memberChars, Bytes.ofChars_cons (by decide), ofChars_member]
  rfl

/-- Each member has some bytes. -/
theorem length_lt_memberChars (members : List (String × Json)) :
    members.length < (Bytes.ofChars (memberChars members)).length := by
  induction members with
  | nil => simp [ofChars_memberChars_nil]
  | cons member members ih =>
    rw [ofChars_memberChars_cons]
    simp only [List.length_cons, List.length_append]
    omega

/-- What follows a member does not continue a number. -/
theorem endsNumber_memberChars (members : List (String × Json)) (rest : Bytes) :
    EndsNumber (Bytes.ofChars (memberChars members) ++ rest) := by
  cases members with
  | nil =>
    rw [ofChars_memberChars_nil]
    exact ⟨rfl, rfl, rfl⟩
  | cons member members =>
    rw [ofChars_memberChars_cons]
    exact ⟨rfl, rfl, rfl⟩

/-- The first key starts with its quote. -/
theorem separated_key (rest : Bytes) :
    members.separated true 0x22 rest = .ok ((), 0x22 :: rest) :=
  rfl

/-- Behind a comma the quote of the next key is expected. -/
theorem separated_member (rest : Bytes) :
    members.separated false 0x2C (0x22 :: rest) = .ok ((), 0x22 :: rest) :=
  rfl

/-- A printed member is read. -/
theorem member_printed {written found : String × Json} (h : MemberReadsAs depth written found)
    {rest : Bytes} (ends : EndsNumber rest) :
    member (value depth)
        (0x22 :: (quotedTail written.1 ++ 0x3A :: (Bytes.ofChars written.2.chars ++ rest))) =
      .ok (found, rest) := by
  have colon : isSpace 0x3A = false := rfl
  unfold member
  rw [List.drop_one, List.tail_cons, string_printed, ← h.1]
  simp only [skipSpace_cons colon, beq_self_eq_true, if_true, h.2.read rest ends]

/-- The members behind the first are read one after the other, each being put at its place. -/
theorem members_printed {list founds : List (String × Json)}
    (each : List.Forall₂ (MemberReadsAs depth) list founds) {fuel : Nat}
    (enough : list.length < fuel) (read : Members) (rest : Bytes) :
    members (value depth) fuel false read (Bytes.ofChars (memberChars list) ++ rest) =
      .ok (founds.foldl (fun members pair => Members.insert pair.1 pair.2 members) read, rest) := by
  induction each generalizing fuel read with
  | nil =>
    obtain ⟨fuel, rfl⟩ := Nat.exists_eq_succ_of_ne_zero (Nat.ne_zero_of_lt enough)
    rw [ofChars_memberChars_nil]
    rfl
  | @cons member found list founds first others ih =>
    obtain ⟨fuel, rfl⟩ := Nat.exists_eq_succ_of_ne_zero (Nat.ne_zero_of_lt enough)
    have within : list.length < fuel := by
      rw [List.length_cons] at enough
      omega
    rw [ofChars_memberChars_cons]
    simp only [List.cons_append, List.append_assoc]
    rw [members, skipSpace_cons rfl]
    simp only [separated_member]
    rw [if_neg (by decide), member_printed first (endsNumber_memberChars list rest)]
    exact ih within (read.insert found.1 found.2)

/-- An object is read as the object of what its members are read as, in order. -/
theorem readsAs_object {list founds : List (String × Json)}
    (each : List.Forall₂ (MemberReadsAs depth) list founds) :
    ReadsAs (depth + 1) (.object list) (.ofPairs founds) := by
  cases each with
  | nil =>
    have bytes : Bytes.ofChars (chars (.object [])) = [0x7B, 0x7D] :=
      Bytes.ofChars_of_ascii (by decide)
    refine ⟨⟨_, _, bytes, rfl, rfl⟩, fun rest _ => ?_⟩
    rw [bytes, value.eq_def]
    rfl
  | @cons member found list founds first others =>
    have bytes : Bytes.ofChars (chars (.object (member :: list))) =
        0x7B :: 0x22 :: (quotedTail member.1 ++
          0x3A :: (Bytes.ofChars member.2.chars ++ Bytes.ofChars (memberChars list))) := by
      rw [chars, Bytes.ofChars_cons (by decide), ofChars_member]
      rfl
    refine ⟨⟨_, _, bytes, rfl, rfl⟩, fun rest _ => ?_⟩
    have inside (fuel : Nat) (enough : list.length < fuel) :
        members (value depth) (fuel + 1) true [] (0x22 :: (quotedTail member.1 ++
          0x3A :: (Bytes.ofChars member.2.chars ++ (Bytes.ofChars (memberChars list) ++ rest)))) =
        .ok (Members.ofPairs (found :: founds), rest) := by
      rw [members, skipSpace_cons rfl]
      simp only [separated_key]
      rw [if_neg (by decide), member_printed first (endsNumber_memberChars list rest)]
      exact members_printed others enough (Members.insert found.1 found.2 []) rest
    have enough := length_lt_memberChars list
    rw [bytes, value.eq_def]
    simp only [List.cons_append, List.append_assoc]
    change (members (value depth) (_ + 1) true [] _).map _ = _
    rw [inside]
    · rfl
    · simp only [List.length_cons, List.length_append]
      omega

end Reader

/-! ## All values -/

/-- Plain values are read back if they do not nest too deeply. -/
theorem Plain.readsAs {json : Json} (plain : json.Plain) {depth : Nat}
    (shallow : json.nesting ≤ depth) : Reader.ReadsAs depth json json := by
  induction plain generalizing depth with
  | null => exact Reader.readsAs_null
  | bool value => exact Reader.readsAs_bool value
  | integer low high => exact Reader.readsAs_integer low high
  | string value => exact Reader.readsAs_string value
  | @array items each ih =>
    -- What stands inside a container may nest less deeply by one.
    rw [nesting] at shallow
    obtain ⟨depth, rfl⟩ := Nat.exists_eq_succ_of_ne_zero (Nat.ne_zero_of_lt shallow)
    refine Reader.readsAs_array (List.forall₂_same.mpr fun item found => ?_)
    have inside := nesting_le_of_mem_items found
    exact ih item found (by omega)
  | @object members ascending each ih =>
    rw [nesting] at shallow
    obtain ⟨depth, rfl⟩ := Nat.exists_eq_succ_of_ne_zero (Nat.ne_zero_of_lt shallow)
    have inner : List.Forall₂ (Reader.MemberReadsAs depth) members members := by
      refine List.forall₂_same.mpr fun member found => ⟨rfl, ?_⟩
      have inside := nesting_le_of_mem_members found
      exact ih member found (by omega)
    have whole := Reader.readsAs_object inner
    rwa [Json.ofPairs, ascending.ofPairs_eq] at whole

/-- So are members with plain values. -/
theorem membersReadAs_of_plain {members : List (String × Json)}
    (plain : ∀ member ∈ members, member.2.Plain) {depth : Nat}
    (shallow : nestingMembers members ≤ depth) :
    List.Forall₂ (Reader.MemberReadsAs depth) members members :=
  List.forall₂_same.mpr fun member found =>
    ⟨rfl, (plain member found).readsAs ((nesting_le_of_mem_members found).trans shallow)⟩

/-- An integer of 64 bits is plain. -/
theorem plain_of_holds {value : Int} (fits : IntegerType.i64.holds value = true) :
    (ofInt value).Plain := by
  simp only [IntegerType.holds, Bool.and_eq_true, decide_eq_true_eq] at fits
  exact .integer fits.1 (by omega)

/-- The text of a value that is read as another one is read as that. -/
theorem read_ofChars {json found : Json} (h : Reader.ReadsAs Reader.maxDepth json found) :
    read (Bytes.ofChars json.chars) = .ok found := by
  have whole := h.read [] trivial
  rw [List.append_nil] at whole
  rw [read, whole]
  rfl

end LspGateway.Json
