import LspGateway.Proofs.Service.Pieces

/-!
# Bounds of reading

Whatever a stream holds, the block of a frame is read within its budget: once so many bytes are
there, either a block has ended among them or the reading has failed. Behind a block no more is
read than the payload that it announces, and that only if it is admitted. So a reading comes to
a result as soon as there are as many bytes as a block and a payload may take, even on a stream
that never ends.
-/

namespace LspGateway

namespace Frame

variable {ended : Bool} {limit : Nat}

/-! ## Blocks -/

/-- The result of reading a block takes no more of the bytes than there is room for, and while
there is none there is room left. -/
def Header.Spends (room : Nat) (bytes : Bytes) : Header → Prop
  | .length _ rest | .fault _ rest => ∃ taken, bytes = taken ++ rest ∧ taken.length ≤ room
  | .nothing | .starved => bytes.length < room

/-- One byte more takes the room of one byte more. -/
theorem Header.Spends.cons {room : Nat} {bytes : Bytes} {header : Header}
    (spends : header.Spends room bytes) (byte : UInt8) :
    header.Spends (room + 1) (byte :: bytes) := by
  cases header with
  | length n rest | fault cause rest =>
    obtain ⟨taken, rfl, within⟩ := spends
    exact ⟨byte :: taken, rfl, Nat.succ_le_succ within⟩
  | nothing | starved => exact Nat.succ_lt_succ spends

namespace HeaderScan

/-- A line that is taken up leaves the room that there is. -/
theorem room_of_takeLine {scan next : HeaderScan} {terminated : Bool}
    (more : scan.takeLine terminated = .more next) : next.room = scan.room := by
  unfold takeLine at more
  split at more
  · cases more
  · dsimp only at more
    split at more
    · cases more
    · split at more
      · split at more <;> cases more
        rfl
      · split at more <;> cases more
        rfl

/-- The end of a block takes no more than was taken before. -/
theorem finish_spends {room : Nat} {bytes rest : Bytes} (scan : HeaderScan)
    (taken : ∃ taken, bytes = taken ++ rest ∧ taken.length ≤ room) :
    (scan.finish rest).Spends room bytes := by
  unfold finish
  cases scan.length <;> exact taken

/-- Nothing is taken at the end of a stream. -/
theorem atEnd_spends {room : Nat} (some : 0 < room) (scan : HeaderScan) :
    scan.atEnd.Spends room [] := by
  have none : ∃ taken : Bytes, [] = taken ++ [] ∧ taken.length ≤ room := ⟨[], rfl, room.zero_le⟩
  unfold atEnd
  split
  · split
    · exact none
    · exact some
  · split
    · exact none
    · exact finish_spends scan none
    · split
      · exact none
      · exact some

/-- A block takes no more bytes than there is room for. The induction is on the bytes, each of
which takes room. -/
theorem run_spends (scan : HeaderScan) (some : 0 < scan.room) (bytes : Bytes) :
    (run ended scan bytes).Spends scan.room bytes := by
  induction bytes generalizing scan with
  | nil =>
    rw [run]
    split
    · exact atEnd_spends some scan
    · exact some
  | cons byte bytes ih =>
    obtain ⟨room, hroom⟩ := Nat.exists_eq_succ_of_ne_zero some.ne'
    have first : ∃ taken, byte :: bytes = taken ++ bytes ∧ taken.length ≤ scan.room :=
      ⟨[byte], rfl, some⟩
    unfold run
    dsimp only
    split
    · split
      · exact first
      · exact finish_spends _ first
      · next next more =>
        have left : next.room = room := by
          rw [room_of_takeLine more, hroom]
          rfl
        split
        · exact first
        · next spare =>
          rw [hroom, ← left]
          exact (ih _ (Nat.pos_of_ne_zero fun spent => spare (beq_iff_eq.mpr spent))).cons byte
    · next inside =>
      have left : scan.room - 1 = room := by
        rw [hroom]
        rfl
      have spare : 0 < scan.room - 1 := by
        simp only [Bool.or_eq_true, beq_iff_eq, not_or] at inside
        omega
      rw [hroom, ← left]
      exact (ih ⟨byte :: scan.line, scan.room - 1, scan.seen, scan.length⟩ spare).cons byte

/-- Once there is a result it does not matter whether the stream has ended. -/
theorem run_start_of_decided {bytes : Bytes} (decided : start.run ended bytes ≠ .starved) :
    start.run true bytes = start.run ended bytes := by
  cases ended with
  | true => rfl
  | false =>
    have whole : start.run true (bytes ++ []) = (start.run false bytes).extend [] :=
      run_extend decided []
    rw [List.append_nil] at whole
    rw [whole]
    cases start.run false bytes <;> simp [Header.extend]

end HeaderScan

/-- Behind a block stands what it leaves, and it is within the budget. -/
theorem Opens.taken {bytes rest : Bytes} {announced : Option Nat}
    (opens : Opens bytes announced rest) :
    ∃ block, bytes = block ++ rest ∧ block.length ≤ headerBudget := by
  obtain ⟨block, -, whole, within, -⟩ := opens
  exact ⟨block.bytes, whole, within.elim And.right fun last => last.2.2.2.le⟩

/-- A block ends with a line feed, or else with the stream before the budget is spent. -/
theorem Opens.ends {bytes rest : Bytes} {announced : Option Nat}
    (opens : Opens bytes announced rest) :
    0x0A ∈ bytes ∨ bytes.length < headerBudget := by
  obtain ⟨block, -, whole, (⟨⟨content, last, -⟩, -⟩ | ⟨-, -, none, short⟩), -⟩ := opens
  · left
    rw [whole, Block.bytes, last]
    simp
  · right
    rwa [whole, none, List.append_nil]

/-! ## Frames -/

/-- What reading a frame takes of the bytes at hand, and what it waits for. -/
inductive Reading.Takes (limit : Nat) (ended : Bool) (bytes : Bytes) : Reading → Prop where
  /-- A block is taken, and the payload that it announces. -/
  | frame (payload rest : Bytes) (opens : Opens bytes (some payload.length) (payload ++ rest))
      (admitted : payload.length ≤ limit) : Takes limit ended bytes (.frame payload rest)
  /-- Blanks are taken up to the end of the stream. -/
  | finished (short : bytes.length < headerBudget) : Takes limit ended bytes .finished
  /-- Of a faulty block no more is taken than the budget. -/
  | faulty (cause : Fault) (taken rest : Bytes) (early : cause.InHeader)
      (whole : bytes = taken ++ rest) (within : taken.length ≤ headerBudget) :
      Takes limit ended bytes (.fault cause rest)
  /-- A block is taken that announces nothing. -/
  | missing (rest : Bytes) (opens : Opens bytes none rest) :
      Takes limit ended bytes (.fault .missingLength rest)
  /-- A block is taken that announces too much. -/
  | refused (n : Nat) (rest : Bytes) (opens : Opens bytes (some n) rest) :
      Takes limit ended bytes (.fault (.tooLarge n limit) rest)
  /-- A block is taken, and what there is of the payload that it announces. -/
  | cut (n : Nat) (part : Bytes) (opens : Opens bytes (some n) part) (admitted : n ≤ limit)
      (short : part.length < n) : Takes limit ended bytes (.fault .endInPayload [])
  /-- More bytes of a block are waited for. -/
  | block (lasts : ended = false) (short : bytes.length < headerBudget) :
      Takes limit ended bytes .starved
  /-- More bytes of a payload are waited for. -/
  | payload (lasts : ended = false) (n : Nat) (part : Bytes) (opens : Opens bytes (some n) part)
      (admitted : n ≤ limit) (short : part.length < n) : Takes limit ended bytes .starved

/-- Behind a block that announces a payload it is taken, refused, cut short or waited for. -/
theorem readPayload_takes {bytes rest : Bytes} {n : Nat} (opens : Opens bytes (some n) rest) :
    (readPayload ended limit n rest).Takes limit ended bytes := by
  unfold readPayload
  split
  · exact .refused n rest opens
  · next within =>
    have admitted := Nat.le_of_not_lt within
    dsimp only
    split
    · next whole =>
      have size : (rest.take n).length = n := beq_iff_eq.mp whole
      refine .frame _ _ ?_ (size.le.trans admitted)
      rwa [List.take_append_drop, size]
    · next part =>
      have short : rest.length < n := by
        rw [beq_iff_eq, List.length_take] at part
        omega
      split
      · exact .cut n rest opens admitted short
      · next lasts => exact .payload (Bool.eq_false_iff.mpr lasts) n rest opens admitted short

/-- Reading a frame takes no more than it should. -/
theorem read_takes (limit : Nat) (ended : Bool) (bytes : Bytes) :
    (read limit ended bytes).Takes limit ended bytes := by
  have spends : (HeaderScan.start.run ended bytes).Spends headerBudget bytes :=
    HeaderScan.run_spends .start (by decide) bytes
  unfold read
  by_cases starved : HeaderScan.start.run ended bytes = .starved
  · rw [starved] at spends ⊢
    cases ended with
    | false => exact .block rfl spends
    | true =>
      rcases HeaderScan.run_start_cases bytes with ⟨announced, rest, run⟩ | run | ⟨_, _, -, run⟩
      · cases announced <;> cases starved.symm.trans run
      · cases starved.symm.trans run
      · cases starved.symm.trans run
  · rw [← HeaderScan.run_start_of_decided starved] at spends ⊢
    rcases HeaderScan.run_start_cases bytes with
      ⟨announced, rest, run⟩ | run | ⟨cause, rest, early, run⟩
    · have opens := HeaderScan.run_start_eq_ofLength?_iff.mp run
      rw [run]
      cases announced with
      | none => exact .missing rest opens
      | some n => exact readPayload_takes opens
    · rw [run] at spends ⊢
      exact .finished spends
    · rw [run] at spends ⊢
      obtain ⟨taken, whole, within⟩ := spends
      exact .faulty cause taken rest early whole within

/-- Once a frame is decided it does not matter whether the stream has ended. -/
theorem read_of_decided {bytes : Bytes} (decided : read limit false bytes ≠ .starved) :
    read limit ended bytes = read limit false bytes := by
  have whole : read limit ended (bytes ++ []) = (read limit false bytes).extend [] :=
    read_extend decided []
  rw [List.append_nil] at whole
  rw [whole]
  cases read limit false bytes <;> simp [Reading.extend]

end Frame

namespace Input

variable {limit : Nat} {input : Input} {bytes : Bytes}

/-- Once the bytes at hand suffice, no piece is taken, and the end does not matter. -/
theorem readPieces_of_enough {ended : Bool} {buffer : Bytes}
    (decided : Frame.read limit false buffer ≠ .starved) (pieces : List Piece) :
    readPieces limit ended buffer pieces =
      (Frame.read limit false buffer, ⟨unread (Frame.read limit false buffer), pieces, ended⟩) := by
  cases pieces with
  | nil =>
    rw [readPieces, Frame.read_of_decided decided]
    split
    · next starved => exact absurd starved decided
    · rfl
  | cons piece pieces => exact readPieces_of_decided decided

/-- What arrives after a result is there is not looked at. -/
theorem Offers.read_later (offers : input.Offers bytes) (lasts : input.ended = false)
    (decided : (input.read limit).1 ≠ .starved) (more : List Piece) (ended : Bool) :
    Input.read limit ⟨input.buffer, input.pieces ++ more, ended⟩ =
      ((input.read limit).1,
        ⟨(input.read limit).2.buffer, (input.read limit).2.pieces ++ more, ended⟩) := by
  obtain ⟨buffer, pieces, _⟩ := input
  obtain ⟨parts, hpieces, filled, -⟩ := offers
  dsimp only at hpieces lasts
  subst hpieces lasts
  unfold Input.read at decided ⊢
  dsimp only at decided ⊢
  induction parts generalizing buffer with
  | nil =>
    have enough : Frame.read limit false buffer ≠ .starved := by
      intro starved
      rw [List.map_nil, readPieces, starved] at decided
      exact decided rfl
    rw [List.map_nil, readPieces_of_enough enough, readPieces_of_enough enough]
  | cons part parts ih =>
    obtain ⟨some, others⟩ := not_or.mp (List.mem_cons.not.mp filled)
    by_cases starved : Frame.read limit false buffer = .starved
    · cases part with
      | nil => exact absurd rfl some
      | cons byte part =>
        rw [List.map_cons, readPieces_of_starved starved] at decided ⊢
        rw [List.cons_append, readPieces_of_starved starved]
        exact ih (buffer ++ byte :: part) others decided
    · rw [List.map_cons, readPieces_of_enough starved, readPieces_of_enough starved]

/-- Reading an input takes some of the bytes that it has to offer, and leaves the others. -/
def Leaves (limit : Nat) (input : Input) (bytes taken rest : Bytes) : Prop :=
  bytes = taken ++ rest ∧ (input.read limit).2.Offers rest

/-- How far an input is read. -/
structure Bounded (limit : Nat) (input : Input) (bytes : Bytes) : Prop where
  /-- There is a result at the end of the input, and as soon as there are as many bytes as a
  block and a payload may take. -/
  decided : input.ended = true ∨ Frame.headerBudget + limit ≤ bytes.length →
    (input.read limit).1.result? ≠ none
  /-- A payload is taken with the block that announces it, and it is admitted. -/
  frame : ∀ payload, (input.read limit).1.result? = some (.ok (some payload)) →
    payload.length ≤ limit ∧ ∃ block rest, block.length ≤ Frame.headerBudget ∧
      Frame.Opens bytes (some payload.length) (payload ++ rest) ∧
      input.Leaves limit bytes (block ++ payload) rest
  /-- At the end between frames only blanks are taken. -/
  finished : (input.read limit).1.result? = some (.ok none) →
    bytes.length < Frame.headerBudget ∧ input.Leaves limit bytes bytes []
  /-- For a faulty block, a missing length or a length that is not admitted no more is taken
  than a block may take. -/
  faulty : ∀ cause, cause ≠ .endInPayload → (input.read limit).1.result? = some (.error cause) →
    ∃ taken rest, taken.length ≤ Frame.headerBudget ∧ input.Leaves limit bytes taken rest
  /-- At the end within a payload its block and what there is of it are taken. -/
  cut : (input.read limit).1.result? = some (.error .endInPayload) →
    ∃ block part n, block.length ≤ Frame.headerBudget ∧ Frame.Opens bytes (some n) part ∧
      part.length < n ∧ n ≤ limit ∧ input.Leaves limit bytes (block ++ part) []
  /-- Without a result there are fewer bytes than a block may take, or behind a block fewer than
  it announces, and it announces what is admitted. -/
  waits : (input.read limit).1.result? = none →
    bytes.length < Frame.headerBudget ∨ ∃ part n, Frame.Opens bytes (some n) part ∧
      part.length < n ∧ n ≤ limit
  /-- Once there are as many bytes as a block may take, and no block has ended among them, there
  is a fault. -/
  overlong : Frame.headerBudget ≤ bytes.length →
    (∀ announced rest, ¬ Frame.Opens bytes announced rest) →
      ∃ cause, cause.InHeader ∧ (input.read limit).1.result? = some (.error cause)
  /-- A result stays as it is whatever arrives later. -/
  settled : input.ended = false → (input.read limit).1.result? ≠ none → ∀ more ended,
    Input.read limit ⟨input.buffer, input.pieces ++ more, ended⟩ =
      ((input.read limit).1,
        ⟨(input.read limit).2.buffer, (input.read limit).2.pieces ++ more, ended⟩)

/-- Whatever an input has to offer, it is read within its bounds. -/
theorem Offers.bounded (offers : input.Offers bytes) (limit : Nat) :
    input.Bounded limit bytes := by
  obtain ⟨result, left, -⟩ := offers.read limit
  have takes := Frame.read_takes limit input.ended bytes
  constructor
  case decided =>
    intro enough none
    rw [result, Frame.Reading.result?_eq_none_iff] at none
    rw [none] at takes
    cases takes with
    | block lasts short =>
      rw [lasts] at enough
      simp only [Bool.false_eq_true, false_or] at enough
      omega
    | payload lasts n part opens admitted short =>
      obtain ⟨block, rfl, within⟩ := opens.taken
      rw [lasts, List.length_append] at enough
      simp only [Bool.false_eq_true, false_or] at enough
      omega
  case frame =>
    intro payload read
    rw [result] at read
    obtain ⟨rest, read⟩ := Frame.Reading.result?_eq_frame_iff.mp read
    rw [read] at takes left
    cases takes with
    | frame _ _ opens admitted =>
      obtain ⟨block, whole, within⟩ := opens.taken
      refine ⟨admitted, block, rest, within, opens, ?_, left⟩
      rw [whole, List.append_assoc]
  case finished =>
    intro read
    rw [result] at read
    rw [Frame.Reading.result?_eq_finished_iff.mp read] at takes left
    cases takes with
    | finished short => exact ⟨short, (List.append_nil bytes).symm, left⟩
  case faulty =>
    intro cause early read
    rw [result] at read
    obtain ⟨rest, read⟩ := Frame.Reading.result?_eq_fault_iff.mp read
    rw [read] at takes left
    cases takes with
    | faulty _ taken _ _ whole within => exact ⟨taken, rest, within, whole, left⟩
    | missing _ opens | refused _ _ opens =>
      obtain ⟨block, whole, within⟩ := opens.taken
      exact ⟨block, rest, within, whole, left⟩
    | cut => exact absurd rfl early
  case cut =>
    intro read
    rw [result] at read
    obtain ⟨rest, read⟩ := Frame.Reading.result?_eq_fault_iff.mp read
    rw [read] at takes left
    cases takes with
    | faulty _ _ _ early => exact early.elim
    | cut n part opens admitted short =>
      obtain ⟨block, whole, within⟩ := opens.taken
      exact ⟨block, part, n, within, opens, short, admitted,
        whole.trans (List.append_nil _).symm, left⟩
  case waits =>
    intro none
    rw [result, Frame.Reading.result?_eq_none_iff] at none
    rw [none] at takes
    cases takes with
    | block _ short => exact .inl short
    | payload _ n part opens admitted short => exact .inr ⟨part, n, opens, short, admitted⟩
  case overlong =>
    intro many closed
    rw [result]
    generalize Frame.read limit input.ended bytes = reading at takes
    cases takes with
    | frame _ _ opens | missing _ opens | refused _ _ opens | cut _ _ opens | payload _ _ _ opens =>
      exact absurd opens (closed _ _)
    | finished short | block _ short => omega
    | faulty cause _ _ early => exact ⟨cause, early, rfl⟩
  case settled =>
    intro lasts some more ended
    refine offers.read_later lasts (fun starved => some ?_) more ended
    rw [starved]
    rfl

/-- A line that does not end is given up when the budget is spent, though the stream lasts. -/
theorem bounded_of_endless_line :
    Bounded 64 ⟨[], [.data (List.replicate Frame.headerBudget 0x61)], false⟩
        (List.replicate Frame.headerBudget 0x61) ∧
      ∃ cause, cause.InHeader ∧
        (Input.read 64 ⟨[], [.data (List.replicate Frame.headerBudget 0x61)], false⟩).1.result? =
          some (.error cause) := by
  have offers : Offers ⟨[], [.data (List.replicate Frame.headerBudget 0x61)], false⟩
      (List.replicate Frame.headerBudget 0x61) := by
    refine ⟨[List.replicate Frame.headerBudget 0x61], rfl, ?_, by simp⟩
    simp [List.replicate_eq_nil_iff, (by decide : Frame.headerBudget ≠ 0)]
  have bounded := offers.bounded 64
  refine ⟨bounded, bounded.overlong List.length_replicate.ge fun announced rest opens => ?_⟩
  rcases opens.ends with feed | short
  · rw [List.mem_replicate] at feed
    exact absurd feed.2 (by decide)
  · rw [List.length_replicate] at short
    exact short.false

end Input

end LspGateway
