import LspGateway.Message.Incoming
import LspGateway.Proofs.Service.Pieces

/-!
# Bytes on the way to the exit

Some bytes are frames up to one with the exit, whatever follows it. An input may hold such
bytes in any pieces, all of them or but a first part while the others are still to come. What
is read of it is the frame that these bytes begin with, or there is not enough of it yet.
-/

namespace LspGateway

namespace Frame

variable {limit : Nat} {bytes payload rest : Bytes}

/-- A block takes at least one byte. -/
theorem HeaderScan.length_run {scan : HeaderScan} {n : Nat}
    (result : run false scan bytes = .length n rest) : rest.length < bytes.length := by
  induction bytes generalizing scan with
  | nil => exact absurd result nofun
  | cons byte bytes ih =>
    unfold run at result
    dsimp only at result
    rw [List.length_cons]
    split at result
    · split at result
      · cases result
      · rw [finish_eq] at result
        have spent : bytes = rest := by
          cases hlength : scan.length <;> rw [hlength] at result <;> cases result
          rfl
        rw [spent]
        exact Nat.lt_succ_self _
      · split at result
        · cases result
        · exact Nat.lt_succ_of_lt (ih result)
    · exact Nat.lt_succ_of_lt (ih result)

/-- A frame takes at least one byte. -/
theorem length_read (result : read limit false bytes = .frame payload rest) :
    rest.length < bytes.length := by
  unfold read at result
  split at result
  · next n behind header =>
    simp only [readPayload, Bool.false_eq_true, if_false] at result
    split at result
    · cases result
    · split at result
      · obtain ⟨-, rfl⟩ := Reading.frame.inj result
        rw [List.length_drop]
        exact Nat.lt_of_le_of_lt (Nat.sub_le _ _) (HeaderScan.length_run header)
      · cases result
  · cases result
  · cases result
  · cases result

/-- The bytes at hand either suffice for the frame that a stream begins with, or are not enough
for any. -/
theorem read_part {part behind more : Bytes}
    (frame : read limit false bytes = .frame payload rest)
    (same : bytes ++ more = part ++ behind) :
    read limit false part = .starved ∨
      ∃ left, read limit false part = .frame payload left ∧ rest ++ more = left ++ behind := by
  by_cases starved : read limit false part = .starved
  · exact .inl starved
  · have whole : read limit false (bytes ++ more) = _ :=
      read_extend (by simp [frame]) more
    rw [same, read_extend starved behind, frame] at whole
    cases result : read limit false part with
    | frame other left =>
      rw [result] at whole
      obtain ⟨rfl, left_eq⟩ := Reading.frame.inj whole
      exact .inr ⟨left, rfl, left_eq.symm⟩
    | finished => exact absurd result read_open_ne_finished
    | fault cause left =>
      rw [result] at whole
      cases whole
    | starved => exact absurd result starved

end Frame

/-- Bytes that begin with frames, the last of which is the exit. -/
inductive ReachesExit (limit : Nat) : Bytes → Prop where
  /-- The exit itself. -/
  | exit {bytes payload rest : Bytes} {params : Json}
      (frame : Frame.read limit false bytes = .frame payload rest)
      (decodes : Incoming.decode payload = .ok (.notification "exit" params)) :
      ReachesExit limit bytes
  /-- Another frame before it, whatever it holds. -/
  | later {bytes payload rest : Bytes} (frame : Frame.read limit false bytes = .frame payload rest)
      (further : ReachesExit limit rest) : ReachesExit limit bytes

/-- They begin with a frame: it is the exit, or the rest leads there. -/
theorem ReachesExit.frame {limit : Nat} {bytes : Bytes} (h : ReachesExit limit bytes) :
    ∃ payload rest, Frame.read limit false bytes = .frame payload rest ∧
      ((∃ params, Incoming.decode payload = .ok (.notification "exit" params)) ∨
        ReachesExit limit rest) := by
  cases h with
  | exit frame decodes => exact ⟨_, _, frame, .inl ⟨_, decodes⟩⟩
  | later frame further => exact ⟨_, _, frame, .inr further⟩

namespace Input

/-- An input that holds some bytes first of all, but for those still to come, in pieces of any
sizes. As long as some are to come, there is nothing else. -/
def Holds (coming bytes : Bytes) (input : Input) : Prop :=
  ∃ (parts : List Bytes) (others : List Piece), input.pieces = parts.map .data ++ others ∧
    [] ∉ parts ∧ bytes <+: input.buffer ++ parts.flatten ++ coming ∧
    (coming ≠ [] → others = [] ∧ input.ended = false)

variable {limit : Nat} {coming bytes payload rest : Bytes} {input : Input}

/-- All that an input holds is still to come if nothing has arrived. -/
theorem holds_nothing (bytes : Bytes) : nothing.Holds bytes bytes :=
  ⟨[], [], rfl, List.not_mem_nil, List.prefix_rfl, fun _ => ⟨rfl, rfl⟩⟩

/-- More bytes may be still to come. -/
theorem Holds.extend (holds : input.Holds coming bytes) (unfinished : coming ≠ [])
    (more : Bytes) : input.Holds (coming ++ more) bytes := by
  obtain ⟨parts, others, hpieces, filled, whole, last⟩ := holds
  refine ⟨parts, others, hpieces, filled, ?_, fun _ => last unfinished⟩
  rw [← List.append_assoc]
  exact whole.trans (List.prefix_append _ more)

/-- The first part of what is still to come arrives. -/
theorem Holds.arrive {part : Bytes} (holds : input.Holds (part ++ coming) bytes)
    (some : part ≠ []) : (input.arrive (.data part)).Holds coming bytes := by
  obtain ⟨parts, others, hpieces, filled, whole, last⟩ := holds
  obtain ⟨rfl, open_⟩ := last (by simp [some])
  refine ⟨parts ++ [part], [], ?_, ?_, ?_, fun _ => ⟨rfl, open_⟩⟩
  · rw [Input.arrive, hpieces, List.map_append, List.append_nil, List.append_nil]
    rfl
  · simpa [some.symm] using filled
  · simpa [Input.arrive] using whole

/-- Once all has arrived, it does not matter what follows. -/
theorem Holds.behind (holds : input.Holds [] bytes) (more : List Piece) (ended : Bool) :
    Holds [] bytes { input with pieces := input.pieces ++ more, ended := ended } := by
  obtain ⟨parts, others, hpieces, filled, whole, -⟩ := holds
  refine ⟨parts, others ++ more, ?_, filled, whole, fun some => absurd rfl some⟩
  rw [← List.append_assoc, ← hpieces]

/-- There is room for as many frames as an input holds bytes. -/
theorem Holds.length_lt_size (holds : input.Holds [] bytes) : bytes.length < input.size := by
  obtain ⟨parts, others, hpieces, filled, whole, -⟩ := holds
  have fits := whole.length_le
  obtain ⟨weight, weighs, size⟩ : ∃ weight : Piece → Nat,
      (∀ bytes, weight (.data bytes) = bytes.length + 1) ∧
        input.size = input.buffer.length + (1 + (input.pieces.map weight).sum) :=
    ⟨_, fun _ => rfl, congrArg (input.buffer.length + ·) List.foldl_eq_apply_foldr⟩
  have room : parts.flatten.length ≤ ((parts.map .data).map weight).sum := by
    clear hpieces filled whole fits
    induction parts with
    | nil => exact Nat.le_refl _
    | cons part parts ih =>
      simp only [List.flatten_cons, List.length_append, List.map_cons, List.sum_cons, weighs]
      omega
  rw [size, hpieces, List.map_append, List.sum_append]
  rw [List.append_nil, List.length_append] at fits
  omega

/-- There is room for one frame at least. -/
theorem size_pos (input : Input) : 0 < input.size := by
  have holds : input.Holds [] [] :=
    ⟨[], input.pieces, rfl, List.not_mem_nil, List.nil_prefix, fun some => absurd rfl some⟩
  exact holds.length_lt_size

/-- No piece is taken for a frame that is at hand. -/
theorem readPieces_of_frame {buffer : Bytes} (ended : Bool)
    (frame : Frame.read limit false buffer = .frame payload rest) (pieces : List Piece) :
    readPieces limit ended buffer pieces = (.frame payload rest, ⟨rest, pieces, ended⟩) := by
  have decided : Frame.read limit false buffer ≠ .starved := by simp [frame]
  cases pieces with
  | nil =>
    have always : Frame.read limit ended (buffer ++ []) = _ := Frame.read_extend decided []
    rw [List.append_nil, frame, Frame.Reading.extend, List.append_nil] at always
    rw [readPieces, always]
    rfl
  | cons piece pieces =>
    rw [readPieces_of_decided decided, frame]
    rfl

/-- What is read of an input is the frame that it holds, and then it holds what is behind; but
as long as bytes are to come, there may not be enough of the frame. -/
theorem Holds.read (holds : input.Holds coming bytes)
    (frame : Frame.read limit false bytes = .frame payload rest) :
    (∃ left, (input.read limit).1 = .frame payload left ∧ (input.read limit).2.Holds coming rest) ∨
      (coming ≠ [] ∧ (input.read limit).1 = .starved ∧
        (input.read limit).2.Holds coming bytes) := by
  obtain ⟨buffer, pieces, ended⟩ := input
  obtain ⟨parts, others, hpieces, filled, ⟨more, whole⟩, last⟩ := holds
  dsimp only at hpieces whole last
  subst hpieces
  unfold Input.read
  dsimp only
  induction parts generalizing buffer with
  | nil =>
    rw [List.flatten_nil, List.append_nil] at whole
    rcases Frame.read_part frame whole with starved | ⟨left, result, behind⟩
    · have unfinished : coming ≠ [] := by
        rintro rfl
        have decided : Frame.read limit false bytes ≠ .starved := by simp [frame]
        have longer : Frame.read limit false (bytes ++ more) = _ := Frame.read_extend decided more
        rw [whole, List.append_nil, starved, frame] at longer
        cases longer
      obtain ⟨rfl, rfl⟩ := last unfinished
      refine .inr ⟨unfinished, ?_⟩
      rw [List.map_nil, List.append_nil, readPieces, starved]
      exact ⟨rfl, [], [], rfl, List.not_mem_nil, ⟨more, by simpa using whole⟩,
        fun _ => ⟨rfl, rfl⟩⟩
    · rw [readPieces_of_frame ended result]
      exact .inl ⟨left, rfl, [], others, rfl, filled, ⟨more, by simpa using behind⟩, last⟩
  | cons part parts ih =>
    rw [List.append_assoc] at whole
    rcases Frame.read_part frame whole with starved | ⟨left, result, behind⟩
    · cases part with
      | nil => exact absurd List.mem_cons_self filled
      | cons byte part =>
        rw [List.map_cons, List.cons_append, readPieces_of_starved starved]
        refine ih (buffer ++ byte :: part) (fun empty => filled (List.mem_cons_of_mem _ empty)) ?_
        simpa using whole
    · rw [readPieces_of_frame ended result]
      exact .inl ⟨left, rfl, part :: parts, others, rfl, filled,
        ⟨more, by simpa using behind⟩, last⟩

end Input

end LspGateway
