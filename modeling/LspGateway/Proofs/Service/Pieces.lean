import LspGateway.Proofs.Frame.Recognition
import LspGateway.Service.Input

/-!
# Input in pieces

What is read of a stream does not depend on the pieces in which it arrives: once the bytes
at hand suffice for a result, further bytes are only left over, and until they do another
piece is taken. So reading an input is reading the bytes that it brings, one frame after
the other.
-/

namespace LspGateway

namespace Frame

/-! ## Further bytes -/

/-- The result of a block with further bytes behind it. -/
def Header.extend : Header → Bytes → Header
  | .length n rest, more => .length n (rest ++ more)
  | .fault cause rest, more => .fault cause (rest ++ more)
  | .nothing, _ => .nothing
  | .starved, _ => .starved

/-- The result of reading with further bytes behind those left. -/
def Reading.extend : Reading → Bytes → Reading
  | .frame payload rest, more => .frame payload (rest ++ more)
  | .fault cause rest, more => .fault cause (rest ++ more)
  | .finished, _ => .finished
  | .starved, _ => .starved

variable {ended : Bool} {bytes : Bytes}

/-- The end of a block looks at none of the bytes behind it. -/
theorem HeaderScan.finish_extend (scan : HeaderScan) (rest more : Bytes) :
    scan.finish (rest ++ more) = (scan.finish rest).extend more := by
  rw [finish_eq, finish_eq]
  cases scan.length <;> rfl

/-- A block that is decided stays so whatever follows. -/
theorem HeaderScan.run_extend {scan : HeaderScan} (decided : run false scan bytes ≠ .starved)
    (more : Bytes) : run ended scan (bytes ++ more) = (run false scan bytes).extend more := by
  induction bytes generalizing scan with
  | nil => exact absurd rfl decided
  | cons byte bytes ih =>
    rw [List.cons_append]
    unfold run at decided ⊢
    dsimp only at decided ⊢
    split at decided
    · next line =>
      rw [if_pos line, if_pos line]
      split at decided
      · rfl
      · exact finish_extend _ bytes more
      · split at decided
        · next spent => rw [if_pos spent, if_pos spent, Header.extend]
        · next spare =>
          rw [if_neg spare, if_neg spare]
          exact ih decided
    · next inside =>
      rw [if_neg inside, if_neg inside]
      exact ih decided

/-- A payload that is decided stays so whatever follows. -/
theorem readPayload_extend {limit n : Nat} {behind : Bytes}
    (decided : readPayload false limit n behind ≠ .starved) (more : Bytes) :
    readPayload ended limit n (behind ++ more) =
      (readPayload false limit n behind).extend more := by
  unfold readPayload at decided ⊢
  split
  · rfl
  · next within =>
    rw [if_neg within] at decided
    simp only [List.length_take, beq_iff_eq, Bool.false_eq_true, if_false] at decided ⊢
    split at decided
    · next whole =>
      have enough : n ≤ behind.length := by omega
      rw [if_pos whole, if_pos (by rw [List.length_append]; omega),
        List.take_append_of_le_length enough, List.drop_append_of_le_length enough]
      rfl
    · exact absurd rfl decided

/-- A frame that is decided stays so whatever follows. -/
theorem read_extend {limit : Nat} (decided : read limit false bytes ≠ .starved) (more : Bytes) :
    read limit ended (bytes ++ more) = (read limit false bytes).extend more := by
  unfold read at decided ⊢
  have header : HeaderScan.start.run false bytes ≠ .starved := by
    intro starved
    rw [starved] at decided
    exact decided rfl
  rw [HeaderScan.run_extend header more]
  cases result : HeaderScan.start.run false bytes with
  | length n rest =>
    rw [result] at decided
    exact readPayload_extend decided more
  | nothing => rfl
  | fault cause rest => rfl
  | starved => exact absurd result header

/-- Bytes that are only blanks so far may still become a frame. -/
theorem read_open_ne_finished {limit : Nat} : read limit false bytes ≠ .finished := by
  intro done
  have decided : read limit false bytes ≠ .starved := by simp [done]
  have always : read limit true (bytes ++ List.replicate headerBudget 0) = _ :=
    read_extend decided _
  rw [done] at always
  obtain ⟨_, _, -, short, -⟩ := read_eq_finished_iff.mp always
  rw [List.length_append, List.length_replicate] at short
  omega

/-- At the end of the stream reading always comes to a result. -/
theorem read_ended_ne_starved {limit : Nat} : read limit true bytes ≠ .starved := by
  intro starved
  rcases read_cases limit bytes with ⟨announced, rest, -, result⟩ | ⟨-, result⟩ |
    ⟨fault, rest, -, result⟩
  · have late := readBehind_isLate limit announced rest
    rw [← result, starved] at late
    exact late
  · cases starved.symm.trans result
  · cases starved.symm.trans result

/-! ## Results -/

/-- What the one who reads a frame learns: a payload, that the stream has ended, or a fault,
and nothing as long as bytes are missing. -/
def Reading.result? : Reading → Option (Except Fault (Option Bytes))
  | .frame payload _ => some (.ok (some payload))
  | .finished => some (.ok none)
  | .fault cause _ => some (.error cause)
  | .starved => none

/-- Only a frame gives a payload. -/
theorem Reading.result?_eq_frame_iff {reading : Reading} {payload : Bytes} :
    reading.result? = some (.ok (some payload)) ↔ ∃ rest, reading = .frame payload rest := by
  cases reading <;> simp [result?]

/-- Only the end of the stream is one. -/
theorem Reading.result?_eq_finished_iff {reading : Reading} :
    reading.result? = some (.ok none) ↔ reading = .finished := by
  cases reading <;> simp [result?]

/-- Only a fault is one. -/
theorem Reading.result?_eq_fault_iff {reading : Reading} {cause : Fault} :
    reading.result? = some (.error cause) ↔ ∃ rest, reading = .fault cause rest := by
  cases reading <;> simp [result?]

/-- There is none only as long as bytes are missing. -/
theorem Reading.result?_eq_none_iff {reading : Reading} :
    reading.result? = none ↔ reading = .starved := by
  cases reading <;> simp [result?]

/-- Further bytes are not part of the result. -/
theorem Reading.result?_extend (reading : Reading) (more : Bytes) :
    (reading.extend more).result? = reading.result? := by
  cases reading <;> rfl

/-- They do not decide anything. -/
theorem Reading.extend_eq_starved_iff {reading : Reading} {more : Bytes} :
    reading.extend more = .starved ↔ reading = .starved := by
  cases reading <;> simp [extend]

/-- The results of reading one frame after the other, as many as asked for. -/
def results (limit : Nat) : Nat → Bytes → List (Option (Except Fault (Option Bytes)))
  | 0, _ => []
  | times + 1, bytes =>
    (read limit true bytes).result? ::
      results limit times (Input.unread (read limit true bytes))

end Frame

namespace Input

/-- An input that has some bytes to offer, whether or not it has ended: they are at hand or in
pieces, whatever the sizes of these. -/
def Offers (input : Input) (bytes : Bytes) : Prop :=
  ∃ parts : List Bytes, input.pieces = parts.map .data ∧ [] ∉ parts ∧
    bytes = input.buffer ++ parts.flatten

/-- An input that brings some bytes and then ends: they are at hand or in pieces, whatever
the sizes of these. -/
structure Brings (input : Input) (bytes : Bytes) : Prop where
  /-- Nothing arrives later. -/
  ended : input.ended = true
  /-- The bytes at hand and those in the pieces, none of which is an end. -/
  parts : ∃ parts : List Bytes, input.pieces = parts.map .data ∧ [] ∉ parts ∧
    bytes = input.buffer ++ parts.flatten

/-- Bytes in pieces of one size, but for the last one. -/
def cut (size : Nat) (bytes : Bytes) : List Bytes :=
  if 0 < size ∧ 0 < bytes.length then bytes.take size :: cut size (bytes.drop size) else []
termination_by bytes.length
decreasing_by simp; omega

/-- What a source brings that hands out so many bytes at once, through a buffer that takes
so many. -/
def ofSource (chunk capacity : Nat) (bytes : Bytes) : Input :=
  ⟨[], (cut (min chunk capacity) bytes).map .data, true⟩

/-- The pieces make up the bytes, and each is some of them. -/
theorem cut_spec {size : Nat} (some : 0 < size) (bytes : Bytes) :
    [] ∉ cut size bytes ∧ (cut size bytes).flatten = bytes := by
  induction bytes using cut.induct size with
  | case1 bytes more ih =>
    obtain ⟨filled, whole⟩ := ih
    rw [cut, if_pos more, List.flatten_cons, whole, List.take_append_drop]
    refine ⟨?_, rfl⟩
    rw [List.mem_cons, not_or]
    refine ⟨fun none => ?_, filled⟩
    have short := congrArg List.length none
    rw [List.length_nil, List.length_take] at short
    omega
  | case2 bytes none =>
    rw [cut, if_neg none]
    have hnil : bytes = [] := List.eq_nil_of_length_eq_zero (by omega)
    exact ⟨List.not_mem_nil, hnil.symm⟩

/-- A source brings its bytes, whatever it hands out at once and the buffer takes. -/
theorem ofSource_brings {chunk capacity : Nat} (handed : 0 < chunk) (taken : 0 < capacity)
    (bytes : Bytes) : (ofSource chunk capacity bytes).Brings bytes := by
  obtain ⟨filled, whole⟩ := cut_spec (lt_min handed taken) bytes
  exact ⟨rfl, _, rfl, filled, whole.symm⟩

/-! ## Reading in pieces -/

variable {limit : Nat} {ended : Bool} {buffer bytes : Bytes} {pieces : List Piece}

/-- Another piece is taken as long as the bytes at hand do not suffice. -/
theorem readPieces_of_starved {byte : UInt8} {part : Bytes}
    (starved : Frame.read limit false buffer = .starved) :
    readPieces limit ended buffer (.data (byte :: part) :: pieces) =
      readPieces limit ended (buffer ++ byte :: part) pieces := by
  rw [readPieces]
  exact starved

/-- No piece is taken once they do. -/
theorem readPieces_of_decided {piece : Piece}
    (decided : Frame.read limit false buffer ≠ .starved) :
    readPieces limit ended buffer (piece :: pieces) =
      (Frame.read limit false buffer,
        ⟨unread (Frame.read limit false buffer), piece :: pieces, ended⟩) := by
  rw [readPieces] <;> intros <;> contradiction

/-- Further bytes are left with those already left. -/
theorem unread_extend (decided : Frame.read limit false bytes ≠ .starved) (more : Bytes) :
    unread ((Frame.read limit false bytes).extend more) =
      unread (Frame.read limit false bytes) ++ more := by
  cases result : Frame.read limit false bytes with
  | frame payload rest => rfl
  | finished => exact absurd result Frame.read_open_ne_finished
  | fault cause rest => rfl
  | starved => exact absurd result decided

/-- What an input has to offer once it was read: what the result leaves, and everything as long
as there is none. -/
def remainder (bytes : Bytes) : Frame.Reading → Bytes
  | .starved => bytes
  | reading => unread reading

/-- Once there is a result it is what that leaves. -/
theorem remainder_of_decided {reading : Frame.Reading} (decided : reading ≠ .starved) :
    remainder bytes reading = unread reading := by
  unfold remainder
  split
  · exact absurd rfl decided
  · rfl

/-- Reading an input is reading the bytes that it has to offer, and it then offers what these
leave; it has ended if it had. -/
theorem Offers.read {input : Input} (offers : input.Offers bytes) (limit : Nat) :
    (input.read limit).1.result? = (Frame.read limit input.ended bytes).result? ∧
      (input.read limit).2.Offers (remainder bytes (Frame.read limit input.ended bytes)) ∧
      (input.read limit).2.ended = input.ended := by
  obtain ⟨buffer, pieces, ended⟩ := input
  obtain ⟨parts, hpieces, filled, whole⟩ := offers
  dsimp only at hpieces whole
  subst hpieces whole
  induction parts generalizing buffer with
  | nil =>
    rw [List.flatten_nil, List.append_nil, Input.read, List.map_nil, readPieces]
    split
    · next starved =>
      rw [starved]
      exact ⟨rfl, ⟨[], rfl, List.not_mem_nil, (List.append_nil _).symm⟩, rfl⟩
    · next decided =>
      refine ⟨rfl, ⟨[], rfl, List.not_mem_nil, ?_⟩, rfl⟩
      rw [List.flatten_nil, List.append_nil, remainder_of_decided decided]
  | cons part parts ih =>
    obtain ⟨some, others⟩ := not_or.mp (List.mem_cons.not.mp filled)
    by_cases starved : Frame.read limit false buffer = .starved
    · cases part with
      | nil => exact absurd rfl some
      | cons byte part =>
        have further := ih (buffer ++ byte :: part) others
        rw [List.append_assoc] at further
        rw [Input.read, List.map_cons, readPieces_of_starved starved]
        exact further
    · rw [Input.read, List.map_cons, readPieces_of_decided starved, Frame.read_extend starved,
        Frame.Reading.result?_extend,
        remainder_of_decided (Frame.Reading.extend_eq_starved_iff.not.mpr starved),
        unread_extend starved]
      exact ⟨rfl, ⟨part :: parts, rfl, filled, rfl⟩, rfl⟩

/-- Reading an input is reading the bytes that it brings, and it then brings what these
leave. -/
theorem Brings.read {input : Input} (brings : input.Brings bytes) (limit : Nat) :
    (input.read limit).1.result? = (Frame.read limit true bytes).result? ∧
      (input.read limit).2.Brings (unread (Frame.read limit true bytes)) := by
  have offers : input.Offers bytes := brings.parts
  obtain ⟨result, left, ended⟩ := offers.read limit
  rw [brings.ended] at result left ended
  rw [remainder_of_decided Frame.read_ended_ne_starved] at left
  exact ⟨result, ended, left⟩

/-- The results of reading one frame after the other, as many as asked for. -/
def results (limit : Nat) : Nat → Input → List (Option (Except Frame.Fault (Option Bytes)))
  | 0, _ => []
  | times + 1, input => (input.read limit).1.result? :: results limit times (input.read limit).2

/-- All of them are those of the bytes that the input brings. -/
theorem Brings.results_eq {input : Input} (brings : input.Brings bytes) (limit times : Nat) :
    input.results limit times = Frame.results limit times bytes := by
  induction times generalizing input bytes with
  | zero => rfl
  | succ times ih =>
    obtain ⟨first, later⟩ := brings.read limit
    rw [results, Frame.results, first, ih later]

end Input

end LspGateway
