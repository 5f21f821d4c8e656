import LspGateway.Proofs.Frame.Encoding

/-!
# Frames cut short

What is left of a written frame that is cut short depends on where the cut is: before the
digits of the length the header cannot be read, before the end of the block or of the
payload the stream ends early, and only the frame of an empty payload may do without its
last byte. Of several frames those before the cut are whole.
-/

namespace LspGateway.Frame

/-! ## One frame -/

variable {payload : Bytes} {limit : Nat}

/-- What is read of the first bytes of a frame, some but not all of them. -/
def cutResults (payload : Bytes) (left : Nat) : List (Except Fault (Option Bytes)) :=
  if left ≤ label.length then [.error (.badHeader (Text.trim (String.ofList (label.take left))))]
  else if left + 1 < (header payload).length then [.error .endInHeader]
  else if payload = [] then [.ok (some []), .ok none]
  else [.error .endInPayload]

/-- Up to the digits there is no header yet: no colon, or no numeral behind it. -/
theorem not_headerText_take {left : Nat} (short : left ≤ label.length) (announced : Option Nat) :
    ¬ HeaderText (label.take left) announced := by
  have named : NamesLength "Content-Length".toList := by unfold NamesLength; decide
  have empty (n : Nat) : ¬ Text.IsNumeral [] n := by
    rw [Text.isNumeral_iff_of_unsigned (by simp)]
    simp
  rw [headerText_iff]
  rintro ⟨name, value, split, parts⟩
  have hlength : label.length = 16 := by decide
  rcases (by omega : left ≤ 14 ∨ left = 15 ∨ left = 16) with before | rfl | rfl
  · have bare : ':' ∉ label.take left := fun colon =>
      absurd ((List.take_sublist_take_left before).subset colon)
        (by decide : ':' ∉ label.take 14)
    rw [splitColon?_eq_none_iff.mpr bare] at split
    cases split
  · rw [show splitColon? (label.take 15) = some ("Content-Length".toList, []) by decide] at split
    cases split
    rcases parts with ⟨unnamed, -⟩ | ⟨-, n, numeral, -⟩
    · exact unnamed named
    · exact empty n numeral
  · rw [show splitColon? (label.take 16) = some ("Content-Length".toList, [' ']) by decide] at split
    cases split
    rcases parts with ⟨unnamed, -⟩ | ⟨-, n, numeral, -⟩
    · exact unnamed named
    · exact empty n numeral

/-- The bytes of a frame by its parts. -/
theorem encode_eq (payload : Bytes) :
    encode payload = (label ++ (Nat.toDigits 10 payload.length ++ ['\r'])).map Char.toUInt8 ++
      (0x0A :: (emptyLine ++ payload)) := by
  rw [encode, header_eq, headerLine]
  simp [show Char.toUInt8 '\n' = 0x0A from rfl]

/-- Up to the digits the header cannot be read. -/
theorem read_label {left : Nat} (some : 0 < left) (short : left ≤ label.length) :
    read limit true ((encode payload).take left) =
      .fault (.badHeader (Text.trim (String.ofList (label.take left)))) [] := by
  have ascii : ∀ c ∈ label.take left, c.val ≤ 127 := fun c hc =>
    Bytes.ascii_of_all (by decide : label.all (·.val ≤ 127) = true) c (List.mem_of_mem_take hc)
  have encoded := Bytes.ofString_ofList_of_ascii ascii
  have bytes : (encode payload).take left = Bytes.ofString (String.ofList (label.take left)) := by
    rw [encoded, encode_eq, List.map_append, List.append_assoc,
      List.take_append_of_le_length (by rwa [List.length_map]), List.map_take]
  have blank : ¬ IsBlank (Bytes.ofString (String.ofList (label.take left))) := by
    rintro ⟨text, same, blank⟩
    obtain rfl := Bytes.ofString_injective same
    rw [String.toList_ofList] at blank
    obtain ⟨more, rfl⟩ := Nat.exists_eq_succ_of_ne_zero some.ne'
    exact absurd (blank 'C' List.mem_cons_self) (by decide)
  have run : HeaderScan.start.run true (Bytes.ofString (String.ofList (label.take left))) = _ :=
    HeaderScan.run_tail_unreadable ?_ blank ?_ ?_
  · rw [bytes, read, run]
  · rw [encoded]
    exact feed_notMem ascii fun feed =>
      absurd (List.mem_of_mem_take feed) (by decide : '\n' ∉ label)
  · rw [String.toList_ofList]
    exact not_headerText_take short
  · rw [encoded, List.length_map, List.length_take]
    have hlength : label.length = 16 := by decide
    have hbudget : headerBudget = 8192 := rfl
    omega

/-- Behind the label stand some of the digits, and perhaps the carriage return. -/
theorem take_header_part {some : Nat} (short : some ≤ (Nat.toDigits 10 payload.length).length + 1) :
    (encode payload).take (label.length + some) =
      (label ++ (Nat.toDigits 10 payload.length).take some ++
        ['\r'].take (some - (Nat.toDigits 10 payload.length).length)).map Char.toUInt8 := by
  have within : label.length + some ≤
      ((label ++ (Nat.toDigits 10 payload.length ++ ['\r'])).map Char.toUInt8).length := by
    rw [List.length_map, List.length_append, List.length_append]
    exact Nat.add_le_add_left short _
  rw [encode_eq, List.take_append_of_le_length within, ← List.map_take,
    List.take_length_add_append, List.take_append, List.append_assoc]

/-- Some of the digits of a number are those of one that is no greater. -/
theorem take_toDigits_spec {some n : Nat} (filled : 0 < some) :
    (Nat.toDigits 10 n).take some ≠ [] ∧
      (∀ c ∈ (Nat.toDigits 10 n).take some, c.isDigit = true) ∧
      Nat.ofDigitChars 10 ((Nat.toDigits 10 n).take some) 0 ≤ n := by
  obtain ⟨digits, all, value⟩ := toDigits_spec n
  refine ⟨?_, fun c hc => all c (List.mem_of_mem_take hc), ?_⟩
  · rw [ne_eq, List.take_eq_nil_iff, not_or]
    exact ⟨filled.ne', digits⟩
  · calc Nat.ofDigitChars 10 ((Nat.toDigits 10 n).take some) 0
      _ ≤ Nat.ofDigitChars 10 ((Nat.toDigits 10 n).drop some)
          (Nat.ofDigitChars 10 ((Nat.toDigits 10 n).take some) 0) := Text.le_ofDigitChars _ _
      _ = n := by rw [← Nat.ofDigitChars_append, List.take_append_drop, value]

/-- Up to the end of the block the stream ends in the header. -/
theorem read_header_part {left : Nat} (bounded : payload.length ≤ Text.maxWord)
    (digits : label.length < left) (short : left + 1 < (header payload).length) :
    read limit true ((encode payload).take left) = .fault .endInHeader [] := by
  have hbudget : headerBudget = 8192 := rfl
  have fits := header_length_le bounded
  suffices run : HeaderScan.start.run true ((encode payload).take left) = .fault .endInHeader [] by
    rw [read, run]
  by_cases line : left = (headerLine payload.length).length
  · -- The line of the header is there, and nothing of the empty one.
    have part : (encode payload).take left = headerLine payload.length ++ [] := by
      rw [encode, header_eq, List.append_assoc, line, List.take_left, List.append_nil]
    rw [header_eq, List.length_append] at fits
    rw [part, HeaderScan.start, HeaderScan.run_header (headerLine_spec bounded).1
      (headerLine_spec bounded).2 (by omega), if_neg (by omega)]
    exact HeaderScan.run_tail_nil (by omega)
  · -- Some of the digits are there, and perhaps the carriage return behind them.
    obtain ⟨some, rfl⟩ := Nat.exists_eq_add_of_le digits.le
    rw [header_length] at short fits
    have hline : (headerLine payload.length).length =
        label.length + (Nat.toDigits 10 payload.length).length + 2 := by
      simp [headerLine]
      omega
    have hsome : 0 < some := by omega
    obtain ⟨filled, all, value⟩ := take_toDigits_spec (n := payload.length) hsome
    have blank : ∀ c ∈ ['\r'].take (some - (Nat.toDigits 10 payload.length).length), c = '\r' :=
      fun c hc => List.mem_singleton.mp (List.mem_of_mem_take hc)
    have ascii : ∀ c ∈ ['\r'].take (some - (Nat.toDigits 10 payload.length).length), c.val ≤ 127 :=
      fun c hc => blank c hc ▸ by decide
    rw [take_header_part (by omega)]
    refine HeaderScan.run_tail_header
      (label_feed_notMem all ascii fun feed => absurd (blank _ feed) (by decide))
      (isHeader_label filled all (value.trans bounded)
        (fun c hc => blank c hc ▸ by decide) ascii) ?_
    have hlength : label.length = 16 := by decide
    simp only [List.length_map, List.length_append, List.length_take, List.length_singleton]
    omega

/-- With only the last byte of the block missing, the block is complete all the same. -/
theorem opens_header_part (bounded : payload.length ≤ Text.maxWord) :
    Opens (headerLine payload.length ++ [0x0D]) (some payload.length) [] := by
  have whole : (Block.mk [] [(headerLine payload.length, some payload.length)] [0x0D]).bytes =
      headerLine payload.length ++ [0x0D] := by
    simp [Block.bytes]
  have fits := header_length_le bounded
  rw [header_eq, List.length_append] at fits
  refine ⟨⟨[], [(headerLine payload.length, some payload.length)], [0x0D]⟩,
    ⟨⟨List.forall_mem_nil _, ?_, ?_⟩, List.cons_ne_nil _ _⟩, ?_,
    .inr ⟨List.cons_ne_nil _ _, (by decide : (0x0A : UInt8) ∉ [0x0D]), rfl, ?_⟩, rfl⟩
  · exact List.forall_mem_singleton.mpr (headerLine_spec bounded)
  · exact isBlank_ascii (List.all_eq_true.mp (by decide : ['\r'].all Text.isBlank = true))
      (Bytes.ascii_of_all (by decide))
  · rw [whole, List.append_nil]
  · rw [whole, List.length_append, List.length_singleton]
    have hbudget : headerBudget = 8192 := rfl
    omega

/-- From there on the block is complete, and what is left of the payload follows. -/
theorem opens_take {left : Nat} (bounded : payload.length ≤ Text.maxWord)
    (complete : (header payload).length ≤ left + 1) :
    Opens ((encode payload).take left) (some payload.length)
      (payload.take (left - (header payload).length)) := by
  have fits : (header payload).length ≤ headerBudget :=
    (header_length_le bounded).trans (by decide)
  by_cases whole : (header payload).length ≤ left
  · obtain ⟨more, rfl⟩ := Nat.exists_eq_add_of_le whole
    rw [encode, List.take_length_add_append, Nat.add_sub_cancel_left]
    exact opens_header (List.forall_mem_nil _) (by simpa using fits) bounded (payload.take more)
  · have last : left = (headerLine payload.length ++ [0x0D]).length := by
      rw [header_eq, List.length_append] at complete whole
      rw [List.length_append]
      have hempty : emptyLine.length = 2 := rfl
      simp only [List.length_singleton]
      omega
    have parts : encode payload = headerLine payload.length ++ [0x0D] ++ (0x0A :: payload) := by
      rw [encode, header_eq, List.append_assoc, List.append_assoc]
      rfl
    rw [Nat.sub_eq_zero_of_le (Nat.le_of_not_le whole), List.take_zero, parts, last, List.take_left]
    exact opens_header_part bounded

/-- The cut counts as the end of the stream exactly behind the label, unless nothing but
the last byte of an empty payload's frame is missing. -/
theorem cutResults_unexpectedEnd_iff {payload : Bytes} {left : Nat} :
    (∃ fault, fault.isUnexpectedEnd = true ∧ cutResults payload left = [.error fault]) ↔
      label.length < left ∧ (payload = [] → left + 1 < (header payload).length) := by
  unfold cutResults
  split
  · next label =>
    simp only [List.cons.injEq, and_true, Except.error.injEq, Nat.not_lt.mpr label, false_and,
      iff_false]
    rintro ⟨fault, ended, rfl⟩
    exact absurd ended (by simp [Fault.isUnexpectedEnd, Fault.failure?])
  · next digits =>
    have digits := Nat.lt_of_not_le digits
    split
    · next header => exact ⟨fun _ => ⟨digits, fun _ => header⟩, fun _ => ⟨_, rfl, rfl⟩⟩
    · next complete =>
      split
      · next none =>
        constructor
        · rintro ⟨fault, -, same⟩
          cases same
        · rintro ⟨-, header⟩
          exact absurd (header none) complete
      · next filled =>
        exact ⟨fun _ => ⟨digits, fun none => absurd none filled⟩, fun _ => ⟨_, rfl, rfl⟩⟩

/-! ## Several frames -/

/-- The first bytes of frames. -/
structure Cut where
  /-- The payloads of the frames that are whole. -/
  whole : List Bytes
  /-- The payload of the frame that is cut, if one is, and how many bytes of it are left. -/
  part : Option (Bytes × Nat)

/-- The first so many bytes of frames. -/
def cutAt : Nat → List Bytes → Cut
  | _, [] => ⟨[], none⟩
  | count, payload :: payloads =>
    if (written payload).length ≤ count then
      let cut := cutAt (count - (written payload).length) payloads
      ⟨payload :: cut.whole, cut.part⟩
    else ⟨[], if count = 0 then none else some (payload, count)⟩

namespace Cut

/-- What is left of the frame that is cut. -/
def rest (cut : Cut) : Bytes :=
  match cut.part with
  | none => []
  | some (payload, left) => (written payload).take left

/-- What is read behind the frames that are whole. -/
def ending (cut : Cut) : List (Except Fault (Option Bytes)) :=
  match cut.part with
  | none => [.ok none]
  | some (payload, left) => cutResults payload left

end Cut

/-- The first bytes of frames are those that are whole and what is left of the next one. -/
theorem take_written (count : Nat) (payloads : List Bytes) :
    (payloads.flatMap written).take count =
      (cutAt count payloads).whole.flatMap written ++ (cutAt count payloads).rest := by
  induction payloads generalizing count with
  | nil => exact List.take_nil
  | cons payload payloads ih =>
    rw [cutAt, List.flatMap_cons]
    split
    · next whole =>
      rw [List.take_append, List.take_of_length_le whole, ih, List.flatMap_cons, List.append_assoc]
      rfl
    · next part =>
      rw [List.take_append_of_le_length (Nat.le_of_not_le part)]
      split
      · next none =>
        rw [none]
        rfl
      · rfl

/-- The whole frames are among them. -/
theorem cutAt_whole (count : Nat) (payloads : List Bytes) :
    (cutAt count payloads).whole.Sublist payloads := by
  induction payloads generalizing count with
  | nil => exact List.Sublist.slnil
  | cons payload payloads ih =>
    rw [cutAt]
    split
    · exact (ih _).cons_cons payload
    · exact List.nil_sublist _

/-- The frame that is cut is one of them, and it is cut. -/
theorem cutAt_part {count left : Nat} {payloads : List Bytes} {payload : Bytes}
    (part : (cutAt count payloads).part = some (payload, left)) :
    payload ∈ payloads ∧ 0 < left ∧ left < (written payload).length := by
  induction payloads generalizing count with
  | nil => cases part
  | cons first payloads ih =>
    rw [cutAt] at part
    split at part
    · obtain ⟨member, bounds⟩ := ih part
      exact ⟨List.mem_cons_of_mem first member, bounds⟩
    · next short =>
      dsimp only at part
      split at part
      · cases part
      · next some =>
        cases part
        exact ⟨List.mem_cons_self, Nat.pos_of_ne_zero some, Nat.lt_of_not_le short⟩

end LspGateway.Frame
