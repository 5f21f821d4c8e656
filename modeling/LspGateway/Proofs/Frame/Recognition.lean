import LspGateway.Proofs.Frame.Blocks

/-!
# What is read as a frame

On a stream that has ended the result of reading says what its bytes are: a frame is read
exactly where they begin with a block that announces its payload, nothing is left exactly
where there are but blanks, and each fault behind a complete block has its cause.
-/

namespace LspGateway.Frame

/-- Bytes begin with a header block within the budget: the length that it announces, if it
does, and the bytes behind it. -/
def Opens (bytes : Bytes) (announced : Option Nat) (rest : Bytes) : Prop :=
  ∃ block : Block, block.WellFormed ∧ bytes = block.bytes ++ rest ∧
    block.Precedes headerBudget rest ∧ block.length? = announced

namespace Header

/-- The result of a complete block tells what it announces and what follows it. -/
theorem ofLength?_inj {first second : Option Nat} {before after : Bytes} :
    ofLength? first before = ofLength? second after ↔ first = second ∧ before = after := by
  cases first <;> cases second <;> simp [ofLength?]

/-- A complete block is something. -/
theorem ofLength?_ne_nothing (announced : Option Nat) (rest : Bytes) :
    ofLength? announced rest ≠ .nothing := by
  cases announced <;> simp [ofLength?]

/-- A complete block has no fault in its lines. -/
theorem ofLength?_ne_fault {fault : Fault} (early : fault.InHeader) (announced : Option Nat)
    (rest after : Bytes) : ofLength? announced rest ≠ .fault fault after := by
  cases announced with
  | none =>
    intro same
    obtain ⟨rfl, -⟩ := Header.fault.inj same
    exact early
  | some n => simp [ofLength?]

end Header

namespace HeaderScan

/-- A block is complete exactly where the bytes begin with it. -/
theorem run_start_eq_ofLength?_iff {bytes rest : Bytes} {announced : Option Nat} :
    start.run true bytes = .ofLength? announced rest ↔ Opens bytes announced rest := by
  constructor
  · intro complete
    have outcome : Outcome headerBudget false none bytes (start.run true bytes) :=
      run_outcome (by decide) bytes
    rw [complete] at outcome
    generalize result : Header.ofLength? announced rest = header at outcome
    cases outcome with
    | closed block behind whole lines position within =>
      rw [Option.or_none, Header.ofLength?_inj] at result
      obtain ⟨rfl, rfl⟩ := result
      exact ⟨block, ⟨lines, position⟩, whole, within, rfl⟩
    | nothing => exact absurd result (Header.ofLength?_ne_nothing announced rest)
    | fault fault behind early =>
      exact absurd result (Header.ofLength?_ne_fault early announced rest behind)
  · rintro ⟨block, formed, rfl, within, rfl⟩
    have complete :
        start.run true (block.bytes ++ rest) = .ofLength? (block.length?.or none) rest :=
      run_block formed.toLines formed.some within
    rwa [Option.or_none] at complete

/-- Nothing is left exactly where there are but blanks. -/
theorem run_start_eq_nothing_iff {bytes : Bytes} :
    start.run true bytes = .nothing ↔ OnlyBlanks headerBudget bytes := by
  constructor
  · intro done
    have outcome : Outcome headerBudget false none bytes (start.run true bytes) :=
      run_outcome (by decide) bytes
    rw [done] at outcome
    generalize result : Header.nothing = header at outcome
    cases outcome with
    | closed block behind => exact absurd result.symm (Header.ofLength?_ne_nothing _ behind)
    | nothing unseen blanks => exact blanks
    | fault fault behind early => cases result
  · rintro ⟨blanks, tail, rfl, short, lines, inside, blank⟩
    rw [List.length_append] at short
    have skipped : start.run true (blanks.flatten ++ tail) = _ :=
      run_blanks lines (show blanks.flatten.length < headerBudget by omega) tail
    rw [skipped]
    exact run_tail_nothing inside blank (by omega)

/-- Otherwise the lines of the block are at fault. -/
theorem run_start_cases (bytes : Bytes) :
    (∃ announced rest, start.run true bytes = .ofLength? announced rest) ∨
      start.run true bytes = .nothing ∨
      ∃ fault rest, fault.InHeader ∧ start.run true bytes = .fault fault rest := by
  have outcome : Outcome headerBudget false none bytes (start.run true bytes) :=
    run_outcome (by decide) bytes
  generalize start.run true bytes = header at outcome
  cases outcome with
  | closed block rest => exact .inl ⟨_, rest, rfl⟩
  | nothing => exact .inr (.inl rfl)
  | fault fault rest early => exact .inr (.inr ⟨fault, rest, early, rfl⟩)

end HeaderScan

/-! ## Behind the block -/

/-- What is read behind a complete block. -/
def readBehind (limit : Nat) : Option Nat → Bytes → Reading
  | some n, rest => readPayload true limit n rest
  | none, rest => .fault .missingLength rest

/-- A result that is only decided behind a complete block. -/
def Reading.IsLate : Reading → Prop
  | .frame _ _ => True
  | .fault cause _ => ¬ cause.InHeader
  | .finished | .starved => False

variable {limit n : Nat} {bytes rest payload : Bytes}

/-- A payload is read exactly if it is admitted and all there. -/
theorem readPayload_eq_frame_iff {behind : Bytes} :
    readPayload true limit n behind = .frame payload rest ↔
      n ≤ limit ∧ behind = payload ++ rest ∧ payload.length = n := by
  unfold readPayload
  split
  · next above => simp [Nat.not_le.mpr above]
  · next within =>
    simp only [List.length_take, beq_iff_eq]
    split
    · next whole =>
      rw [Reading.frame.injEq]
      constructor
      · rintro ⟨rfl, rfl⟩
        exact ⟨by omega, (List.take_append_drop n behind).symm, by simpa using whole⟩
      · rintro ⟨-, rfl, rfl⟩
        exact ⟨List.take_left, List.drop_left⟩
    · next short =>
      simp only [if_true, reduceCtorEq, false_iff, not_and]
      rintro - rfl rfl
      rw [List.length_append] at short
      omega

/-- A payload is refused exactly if it is longer than admitted. -/
theorem readPayload_eq_tooLarge_iff {behind : Bytes} {length most : Nat} :
    readPayload true limit n behind = .fault (.tooLarge length most) rest ↔
      limit < n ∧ length = n ∧ most = limit ∧ rest = behind := by
  unfold readPayload
  split
  · next above => simp [above, eq_comm, and_assoc]
  · next within =>
    dsimp only
    split <;> simp [within]

/-- A payload is cut short exactly if it is admitted and not all there. -/
theorem readPayload_eq_endInPayload_iff {behind : Bytes} :
    readPayload true limit n behind = .fault .endInPayload rest ↔
      n ≤ limit ∧ behind.length < n ∧ rest = [] := by
  unfold readPayload
  split
  · next above => simp [Nat.not_le.mpr above]
  · next within =>
    simp only [List.length_take, beq_iff_eq]
    split
    · next whole =>
      simp only [reduceCtorEq, false_iff, not_and]
      omega
    · next short =>
      simp only [if_true, Reading.fault.injEq, true_and]
      constructor
      · rintro rfl
        exact ⟨by omega, by omega, rfl⟩
      · exact fun h => h.2.2.symm

/-- Where a payload is announced, a frame is read, refused or cut short. -/
theorem readPayload_cases (limit n : Nat) (behind : Bytes) :
    (∃ payload rest, readPayload true limit n behind = .frame payload rest) ∨
      readPayload true limit n behind = .fault (.tooLarge n limit) behind ∨
      readPayload true limit n behind = .fault .endInPayload [] := by
  unfold readPayload
  split
  · exact .inr (.inl rfl)
  · dsimp only
    split
    · exact .inl ⟨_, _, rfl⟩
    · exact .inr (.inr rfl)

/-- What is read behind a complete block is only decided there. -/
theorem readBehind_isLate (limit : Nat) (announced : Option Nat) (rest : Bytes) :
    (readBehind limit announced rest).IsLate := by
  cases announced with
  | none => exact id
  | some n =>
    rw [readBehind]
    rcases readPayload_cases limit n rest with ⟨payload, behind, result⟩ | result | result <;>
      rw [result]
    · exact trivial
    · exact id
    · exact id

/-! ## Frames -/

/-- Behind a complete block its payload is read. -/
theorem read_of_opens {announced : Option Nat} (opens : Opens bytes announced rest) :
    read limit true bytes = readBehind limit announced rest := by
  rw [read, HeaderScan.run_start_eq_ofLength?_iff.mpr opens]
  cases announced <;> rfl

/-- What is read stands behind a complete block, or there are but blanks, or the lines of
the block are at fault. -/
theorem read_cases (limit : Nat) (bytes : Bytes) :
    (∃ announced rest, Opens bytes announced rest ∧
        read limit true bytes = readBehind limit announced rest) ∨
      (OnlyBlanks headerBudget bytes ∧ read limit true bytes = .finished) ∨
      ∃ fault rest, fault.InHeader ∧ read limit true bytes = .fault fault rest := by
  rcases HeaderScan.run_start_cases bytes with ⟨announced, rest, run⟩ | run |
    ⟨fault, rest, early, run⟩
  · have opens := HeaderScan.run_start_eq_ofLength?_iff.mp run
    exact .inl ⟨announced, rest, opens, read_of_opens opens⟩
  · exact .inr (.inl ⟨HeaderScan.run_start_eq_nothing_iff.mp run, by rw [read, run]⟩)
  · exact .inr (.inr ⟨fault, rest, early, by rw [read, run]⟩)

/-- What is decided behind a complete block stands behind one. -/
theorem read_eq_iff (reading : Reading) (late : reading.IsLate) :
    read limit true bytes = reading ↔
      ∃ announced rest, Opens bytes announced rest ∧ readBehind limit announced rest = reading := by
  constructor
  · rintro rfl
    rcases read_cases limit bytes with ⟨announced, rest, opens, result⟩ | ⟨-, result⟩ |
      ⟨fault, rest, early, result⟩
    · exact ⟨announced, rest, opens, result.symm⟩
    · rw [result] at late
      exact late.elim
    · rw [result] at late
      exact absurd early late
  · rintro ⟨announced, rest, opens, result⟩
    rw [read_of_opens opens, result]

/-- A frame is read exactly where a block announces its payload. -/
theorem read_eq_frame_iff :
    read limit true bytes = .frame payload rest ↔
      Opens bytes (some payload.length) (payload ++ rest) ∧ payload.length ≤ limit := by
  rw [read_eq_iff _ (show Reading.IsLate (.frame payload rest) from trivial)]
  constructor
  · rintro ⟨announced, behind, opens, result⟩
    cases announced with
    | none => cases result
    | some n =>
      obtain ⟨admitted, rfl, rfl⟩ := readPayload_eq_frame_iff.mp result
      exact ⟨opens, admitted⟩
  · rintro ⟨opens, admitted⟩
    exact ⟨_, _, opens, readPayload_eq_frame_iff.mpr ⟨admitted, rfl, rfl⟩⟩

/-- A length is missed exactly where a block announces none. -/
theorem read_eq_missingLength_iff :
    read limit true bytes = .fault .missingLength rest ↔ Opens bytes none rest := by
  rw [read_eq_iff _ (show Reading.IsLate (.fault .missingLength rest) from id)]
  constructor
  · rintro ⟨announced, behind, opens, result⟩
    cases announced with
    | none =>
      obtain ⟨-, rfl⟩ := Reading.fault.inj result
      exact opens
    | some n =>
      rcases readPayload_cases limit n behind with ⟨_, _, other⟩ | other | other <;>
        cases other.symm.trans result
  · exact fun opens => ⟨none, rest, opens, rfl⟩

/-- A frame is refused exactly where a block announces more than admitted. -/
theorem read_eq_tooLarge_iff {length most : Nat} :
    read limit true bytes = .fault (.tooLarge length most) rest ↔
      Opens bytes (some length) rest ∧ limit < length ∧ most = limit := by
  rw [read_eq_iff _ (show Reading.IsLate (.fault (.tooLarge length most) rest) from id)]
  constructor
  · rintro ⟨announced, behind, opens, result⟩
    cases announced with
    | none => cases result
    | some n =>
      obtain ⟨above, rfl, rfl, rfl⟩ := readPayload_eq_tooLarge_iff.mp result
      exact ⟨opens, above, rfl⟩
  · rintro ⟨opens, above, rfl⟩
    exact ⟨_, _, opens, readPayload_eq_tooLarge_iff.mpr ⟨above, rfl, rfl, rfl⟩⟩

/-- A frame ends early exactly where a block announces more than there is. -/
theorem read_eq_endInPayload_iff :
    read limit true bytes = .fault .endInPayload rest ↔
      rest = [] ∧ ∃ n part, Opens bytes (some n) part ∧ n ≤ limit ∧ part.length < n := by
  rw [read_eq_iff _ (show Reading.IsLate (.fault .endInPayload rest) from id)]
  constructor
  · rintro ⟨announced, part, opens, result⟩
    cases announced with
    | none => cases result
    | some n =>
      obtain ⟨admitted, short, rfl⟩ := readPayload_eq_endInPayload_iff.mp result
      exact ⟨rfl, n, part, opens, admitted, short⟩
  · rintro ⟨rfl, n, part, opens, admitted, short⟩
    exact ⟨_, _, opens, readPayload_eq_endInPayload_iff.mpr ⟨admitted, short, rfl⟩⟩

/-- The stream ends between frames exactly where there are but blanks. -/
theorem read_eq_finished_iff :
    read limit true bytes = .finished ↔ OnlyBlanks headerBudget bytes := by
  constructor
  · intro done
    rcases read_cases limit bytes with ⟨announced, rest, -, result⟩ | ⟨blanks, -⟩ |
      ⟨fault, rest, -, result⟩
    · have late := readBehind_isLate limit announced rest
      rw [← result, done] at late
      exact late.elim
    · exact blanks
    · rw [done] at result
      cases result
  · intro blanks
    rw [read, HeaderScan.run_start_eq_nothing_iff.mpr blanks]

end LspGateway.Frame
