import LspGateway.Proofs.Frame.Truncation
import LspGateway.Proofs.Service.Pieces

/-!
# Frames on an input

What is read of an input in frames: of any bytes exactly what the grammar of frames says,
of written frames their payloads, with blank lines before them or not, and of written
frames cut anywhere the payloads of those that are whole and then what comes of the cut.
None of it depends on the pieces in which the bytes arrive.
-/

namespace LspGateway

namespace Frame

variable {limit : Nat}

/-! ## Written frames -/

/-- A payload and the blank lines that are put before its frame. -/
structure Spaced where
  /-- The blank lines. -/
  blanks : List Bytes
  /-- The payload. -/
  payload : Bytes

namespace Spaced

/-- The blank lines and the frame as it is written. -/
def bytes (frame : Spaced) : Bytes :=
  frame.blanks.flatten ++ written frame.payload

/-- A frame that can be read: its blank lines are lines of blanks and leave room for its
header, and its payload is admitted. -/
structure Admitted (limit : Nat) (frame : Spaced) : Prop where
  /-- The blank lines are what they should be. -/
  lines : ∀ line ∈ frame.blanks, IsLine line ∧ IsBlank line
  /-- They take no more than their share of the budget. -/
  fits : frame.blanks.flatten.length + (header frame.payload).length ≤ headerBudget
  /-- The payload is not too long. -/
  admitted : frame.payload.length ≤ limit

end Spaced

/-- Frames that can be read are read one after the other, and then what follows them. -/
theorem results_spaced (word : limit ≤ Text.maxWord) {frames : List Spaced}
    (admitted : ∀ frame ∈ frames, frame.Admitted limit) (times : Nat) (rest : Bytes) :
    results limit (frames.length + times) (frames.flatMap Spaced.bytes ++ rest) =
      frames.map (fun frame => some (.ok (some frame.payload))) ++ results limit times rest := by
  induction frames with
  | nil => rw [List.length_nil, Nat.zero_add]; rfl
  | cons frame frames ih =>
    obtain ⟨⟨lines, fits, within⟩, admitted⟩ := List.forall_mem_cons.mp admitted
    have bytes : (frame :: frames).flatMap Spaced.bytes ++ rest =
        frame.blanks.flatten ++ encode frame.payload ++ (frames.flatMap Spaced.bytes ++ rest) := by
      rw [List.flatMap_cons, Spaced.bytes, written_eq, List.append_assoc]
    rw [bytes, List.length_cons, Nat.succ_add, results, read_encode lines fits word within,
      Input.unread, ih admitted]
    rfl

/-- Where nothing follows, the stream has ended, however often it is read. -/
theorem results_nil (times : Nat) :
    results limit times [] = List.replicate times (some (.ok none)) := by
  induction times with
  | zero => rfl
  | succ times ih =>
    have finished : read limit true [] = .finished := rfl
    rw [results, finished, Input.unread, ih]
    rfl

/-! ## Written frames cut short -/

/-- What is read of a frame that is cut. -/
theorem results_part (word : limit ≤ Text.maxWord) {payload : Bytes}
    (admitted : payload.length ≤ limit) {left : Nat} (some : 0 < left)
    (cut : left < (encode payload).length) :
    results limit (cutResults payload left).length ((encode payload).take left) =
      (cutResults payload left).map Option.some := by
  have bounded := admitted.trans word
  unfold cutResults
  split
  · next label =>
    rw [List.length_singleton, results, read_label some label]
    rfl
  · next digits =>
    split
    · next header =>
      rw [List.length_singleton, results, read_header_part bounded (Nat.lt_of_not_le digits) header]
      rfl
    · next complete =>
      have opens := opens_take bounded (Nat.le_of_not_lt complete)
      split
      · next none =>
        subst none
        rw [List.take_nil] at opens
        have empty : read limit true ((encode []).take left) = .frame [] [] :=
          read_eq_frame_iff.mpr ⟨opens, admitted⟩
        rw [List.length_cons, results, empty, Input.unread, results_nil]
        rfl
      · next filled =>
        have part : (payload.take (left - (header payload).length)).length < payload.length := by
          have some := List.length_pos_of_ne_nil filled
          rw [encode, List.length_append] at cut
          rw [List.length_take]
          omega
        have short : read limit true ((encode payload).take left) = .fault .endInPayload [] :=
          read_eq_endInPayload_iff.mpr ⟨rfl, _, _, opens, admitted, part⟩
        rw [List.length_singleton, results, short]
        rfl

/-- The results of reading the first bytes of frames. -/
theorem results_take (word : limit ≤ Text.maxWord) {payloads : List Bytes}
    (admitted : ∀ payload ∈ payloads, payload.length ≤ limit) (count : Nat) :
    results limit ((cutAt count payloads).whole.length + (cutAt count payloads).ending.length)
        ((payloads.flatMap written).take count) =
      (cutAt count payloads).whole.map (fun payload => some (.ok (some payload))) ++
        (cutAt count payloads).ending.map some := by
  have bare (payloads : List Bytes) :
      (payloads.map (Spaced.mk [])).flatMap Spaced.bytes = payloads.flatMap written := by
    rw [List.flatMap_map]
    rfl
  have whole : ∀ frame ∈ (cutAt count payloads).whole.map (Spaced.mk []), frame.Admitted limit := by
    intro frame member
    obtain ⟨payload, among, rfl⟩ := List.mem_map.mp member
    have within := admitted payload ((cutAt_whole count payloads).subset among)
    have fits := (header_length_le (within.trans word)).trans (by decide : 40 ≤ headerBudget)
    exact ⟨List.forall_mem_nil _, by simpa using fits, within⟩
  have read := results_spaced word whole (cutAt count payloads).ending.length
    (cutAt count payloads).rest
  rw [bare, ← take_written, List.length_map, List.map_map] at read
  rw [read]
  congr 1
  unfold Cut.ending Cut.rest
  cases part : (cutAt count payloads).part with
  | none => exact results_nil 1
  | some cut =>
    obtain ⟨member, some, short⟩ := cutAt_part part
    obtain ⟨payload, left⟩ := cut
    dsimp only
    rw [written_eq] at short ⊢
    exact results_part word (admitted _ member) some short

end Frame

namespace Input

/-! ## What an input brings -/

variable {limit : Nat} {input : Input}

/-- Written frames are read back from an input, whatever blank lines stand between them and
in whatever pieces they arrive, and then the input has ended. The limit is a number of 64
bits. -/
theorem Brings.results_written {frames : List Frame.Spaced}
    (brings : input.Brings (frames.flatMap Frame.Spaced.bytes)) (word : limit ≤ Text.maxWord)
    (admitted : ∀ frame ∈ frames, frame.Admitted limit) (extra : Nat) :
    input.results limit (frames.length + extra) =
      frames.map (fun frame => some (.ok (some frame.payload))) ++
        List.replicate extra (some (.ok none)) := by
  have read := Frame.results_spaced word admitted extra []
  rw [List.append_nil, Frame.results_nil] at read
  rw [brings.results_eq, read]

/-- Two frames with a blank line between them, the second one with a payload that begins like
a header, from a source that hands out three bytes at once through a buffer for two. -/
theorem results_written_of_two :
    (Input.ofSource 3 2 (List.flatMap Frame.Spaced.bytes
        [⟨[], [0x7B, 0x7D]⟩, ⟨[[0x20, 0x0D, 0x0A]], Frame.label.map Char.toUInt8⟩])).results 64 3 =
      [some (.ok (some [0x7B, 0x7D])), some (.ok (some (Frame.label.map Char.toUInt8))),
        some (.ok none)] := by
  have fits {payload : Bytes} {taken : Nat} (few : taken ≤ 3)
      (short : payload.length ≤ Text.maxWord) :
      taken + (Frame.header payload).length ≤ Frame.headerBudget :=
    (Nat.add_le_add few (Frame.header_length_le short)).trans (by decide)
  have blank : Frame.IsLine [0x20, 0x0D, 0x0A] ∧ Frame.IsBlank [0x20, 0x0D, 0x0A] :=
    ⟨⟨[0x20, 0x0D], rfl, by decide⟩,
      Frame.isBlank_ascii
        (List.all_eq_true.mp (by decide : [' ', '\r', '\n'].all Text.isBlank = true))
        (Bytes.ascii_of_all (by decide))⟩
  refine (Input.ofSource_brings (by decide) (by decide) _).results_written (by decide) ?_ 1
  simp only [List.forall_mem_cons]
  exact ⟨⟨List.forall_mem_nil _, fits (by decide) (by decide), by decide⟩,
    ⟨List.forall_mem_singleton.mpr blank, fits (by decide) (by decide), by decide⟩,
    List.forall_mem_nil _⟩

/-- Written frames that are cut anywhere are read up to the one that is cut. What comes of
that one is a fault of a stream that ended early, with two exceptions: up to the digits of
its length the header cannot be read, and a frame of an empty payload is read even without
its last byte. -/
theorem Brings.results_truncated {payloads : List Bytes} {count : Nat}
    (brings : input.Brings ((payloads.flatMap Frame.written).take count))
    (word : limit ≤ Text.maxWord) (admitted : ∀ payload ∈ payloads, payload.length ≤ limit) :
    input.results limit
        ((Frame.cutAt count payloads).whole.length +
          (Frame.cutAt count payloads).ending.length) =
      (Frame.cutAt count payloads).whole.map (fun payload => some (.ok (some payload))) ++
        (Frame.cutAt count payloads).ending.map some ∧
    ∀ payload left, (Frame.cutAt count payloads).part = some (payload, left) →
      ((∃ fault, fault.isUnexpectedEnd = true ∧
          (Frame.cutAt count payloads).ending = [.error fault]) ↔
        Frame.label.length < left ∧
          (payload = [] → left + 1 < (Frame.header payload).length)) := by
  constructor
  · rw [brings.results_eq]
    exact Frame.results_take word admitted count
  · intro payload left part
    rw [Frame.Cut.ending, part]
    exact Frame.cutResults_unexpectedEnd_iff

/-- Without its last byte the frame of an empty payload is read all the same. -/
theorem results_truncated_of_empty :
    (Input.ofSource 4 4 ((List.flatMap Frame.written [[]]).take 20)).results 64 2 =
      [some (.ok (some [])), some (.ok none)] := by
  have length : (Frame.written []).length = 21 := by
    rw [Frame.written_eq, Frame.encode, List.append_nil, Frame.header_length]
    decide
  have cut : Frame.cutAt 20 [[]] = ⟨[], some ([], 20)⟩ := by
    rw [Frame.cutAt, length]
    rfl
  have ending : (Frame.Cut.mk [] (some ([], 20))).ending = [.ok (some []), .ok none] := by
    change Frame.cutResults [] 20 = _
    rw [Frame.cutResults, Frame.header_length, if_neg (by decide), if_neg (by decide), if_pos rfl]
  have results := ((Input.ofSource_brings (by decide : 0 < 4) (by decide : 0 < 4)
    ((List.flatMap Frame.written [[]]).take 20)).results_truncated
      (by decide : 64 ≤ Text.maxWord) (by decide)).1
  rw [cut, ending] at results
  exact results

/-- What an input is read as, by the bytes that it brings. -/
structure Recognizes (limit : Nat) (input : Input) (bytes : Bytes) : Prop where
  /-- A payload is read exactly where a block announces it. -/
  frame : ∀ payload, (input.read limit).1.result? = some (.ok (some payload)) ↔
    ∃ rest, Frame.Opens bytes (some payload.length) (payload ++ rest) ∧ payload.length ≤ limit
  /-- What follows it is left. -/
  left : ∀ payload rest, Frame.Opens bytes (some payload.length) (payload ++ rest) →
    payload.length ≤ limit → (input.read limit).2.Brings rest
  /-- The input has ended exactly where there are but blanks. -/
  finished : (input.read limit).1.result? = some (.ok none) ↔
    Frame.OnlyBlanks Frame.headerBudget bytes
  /-- A length is missed exactly where a block announces none. -/
  missing : (input.read limit).1.result? = some (.error .missingLength) ↔
    ∃ rest, Frame.Opens bytes none rest
  /-- A payload is refused exactly where a block announces more than admitted. -/
  refused : ∀ length most,
    (input.read limit).1.result? = some (.error (.tooLarge length most)) ↔
      (∃ rest, Frame.Opens bytes (some length) rest) ∧ limit < length ∧ most = limit
  /-- A payload is cut short exactly where a block announces more than there is. -/
  short : (input.read limit).1.result? = some (.error .endInPayload) ↔
    ∃ n part, Frame.Opens bytes (some n) part ∧ n ≤ limit ∧ part.length < n
  /-- The lines are at fault exactly where there is neither a block nor only blanks. -/
  faulty : (∃ fault, fault.InHeader ∧ (input.read limit).1.result? = some (.error fault)) ↔
    ¬ Frame.OnlyBlanks Frame.headerBudget bytes ∧
      ∀ announced rest, ¬ Frame.Opens bytes announced rest

/-- An input is read as the grammar of frames says of the bytes that it brings, in whatever
pieces they arrive. -/
theorem Brings.recognizes {bytes : Bytes} (brings : input.Brings bytes) (limit : Nat) :
    input.Recognizes limit bytes := by
  obtain ⟨result, later⟩ := brings.read limit
  refine ⟨fun payload => ?_, fun payload rest opens admitted => ?_, ?_, ?_, fun length most => ?_,
    ?_, ?_⟩
  · simp only [result, Frame.Reading.result?_eq_frame_iff, Frame.read_eq_frame_iff]
  · rwa [Frame.read_eq_frame_iff.mpr ⟨opens, admitted⟩] at later
  · rw [result, Frame.Reading.result?_eq_finished_iff, Frame.read_eq_finished_iff]
  · simp only [result, Frame.Reading.result?_eq_fault_iff, Frame.read_eq_missingLength_iff]
  · simp only [result, Frame.Reading.result?_eq_fault_iff, Frame.read_eq_tooLarge_iff,
      exists_and_right]
  · simp only [result, Frame.Reading.result?_eq_fault_iff, Frame.read_eq_endInPayload_iff,
      exists_eq_left]
  · simp only [result, Frame.Reading.result?_eq_fault_iff]
    constructor
    · rintro ⟨fault, early, rest, faulty⟩
      refine ⟨fun blanks => ?_, fun announced behind opens => ?_⟩
      · rw [Frame.read_eq_finished_iff.mpr blanks] at faulty
        cases faulty
      · have late := Frame.readBehind_isLate limit announced behind
        rw [← Frame.read_of_opens opens, faulty] at late
        exact late early
    · rintro ⟨filled, unopened⟩
      rcases Frame.read_cases limit bytes with ⟨announced, rest, opens, -⟩ | ⟨blanks, -⟩ |
        ⟨fault, rest, early, faulty⟩
      · exact absurd opens (unopened announced rest)
      · exact absurd blanks filled
      · exact ⟨fault, early, rest, faulty⟩

/-- A frame with a byte behind it, brought byte by byte. -/
theorem recognizes_braces :
    (Input.ofSource 1 1 (Frame.written [0x7B, 0x7D] ++ [0x58])).Recognizes 64
        (Frame.written [0x7B, 0x7D] ++ [0x58]) ∧
      ((Input.ofSource 1 1 (Frame.written [0x7B, 0x7D] ++ [0x58])).read 64).1.result? =
        some (.ok (some [0x7B, 0x7D])) := by
  have recognized := (Input.ofSource_brings (by decide : 0 < 1) (by decide : 0 < 1)
    (Frame.written [0x7B, 0x7D] ++ [0x58])).recognizes 64
  refine ⟨recognized, (recognized.frame _).mpr ⟨[0x58], ?_, by decide⟩⟩
  have fits : (Frame.header [0x7B, 0x7D]).length ≤ Frame.headerBudget :=
    (Frame.header_length_le (by decide)).trans (by decide)
  rw [Frame.written_eq, Frame.encode, List.append_assoc]
  exact Frame.opens_header (List.forall_mem_nil _) (by simpa using fits) (by decide) _

end Input

end LspGateway
