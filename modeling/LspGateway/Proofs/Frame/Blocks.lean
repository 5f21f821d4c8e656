import LspGateway.Proofs.Frame.Grammar

/-!
# Reading header blocks

A header block is read line by line: a line that fits into the budget is taken up as a
whole, one that does not is a fault, and a line cut short by the end of the stream is
taken up as it is. So a block that follows the grammar is read to its end and to the
length that it announces last, and nothing else is read as a block.
-/

namespace LspGateway.Frame

/-- The result of a block that is complete: it has to have announced a length. -/
def Header.ofLength? : Option Nat → Bytes → Header
  | some n, rest => .length n rest
  | none, rest => .fault .missingLength rest

/-- Bytes that hold no frame but only blank lines, the last one perhaps without its line
feed, and that do not use up the budget. -/
def OnlyBlanks (budget : Nat) (bytes : Bytes) : Prop :=
  ∃ blanks tail, bytes = List.flatten blanks ++ tail ∧ bytes.length < budget ∧
    (∀ line ∈ blanks, IsLine line ∧ IsBlank line) ∧ 0x0A ∉ tail ∧ IsBlank tail

/-- What is left of a block behind a header has no blank lines in front; a whole block has
a header. -/
def Block.Continues (block : Block) (seen : Bool) : Prop :=
  if seen then block.blanks = [] else block.headers ≠ []

/-- Bytes up to some number of them begin with a line, with too many bytes for a line, or
they end before either. -/
theorem cut_line (room : Nat) (bytes : Bytes) :
    (∃ line rest, bytes = line ++ rest ∧ IsLine line ∧ line.length ≤ room) ∨
      (∃ content rest, bytes = content ++ rest ∧ 0x0A ∉ content ∧ content.length = room) ∨
      0x0A ∉ bytes ∧ bytes.length < room := by
  induction bytes generalizing room with
  | nil =>
    cases room with
    | zero => exact .inr (.inl ⟨[], [], rfl, List.not_mem_nil, rfl⟩)
    | succ room => exact .inr (.inr ⟨List.not_mem_nil, room.succ_pos⟩)
  | cons byte bytes ih =>
    cases room with
    | zero => exact .inr (.inl ⟨[], byte :: bytes, rfl, List.not_mem_nil, rfl⟩)
    | succ room =>
      by_cases feed : byte = 0x0A
      · subst feed
        exact .inl ⟨[0x0A], bytes, rfl, ⟨[], rfl, List.not_mem_nil⟩, Nat.le_add_left 1 room⟩
      · have inside {content : Bytes} (h : 0x0A ∉ content) : 0x0A ∉ byte :: content :=
          List.not_mem_cons_of_ne_of_not_mem (Ne.symm feed) h
        rcases ih room with ⟨line, rest, rfl, ⟨content, rfl, hcontent⟩, hline⟩ |
          ⟨content, rest, rfl, hcontent, hlength⟩ | ⟨hbytes, hlength⟩
        · exact .inl ⟨byte :: content ++ [0x0A], rest, rfl, ⟨byte :: content, rfl, inside hcontent⟩,
            Nat.succ_le_succ hline⟩
        · exact .inr (.inl ⟨byte :: content, rest, rfl, inside hcontent, congrArg (· + 1) hlength⟩)
        · exact .inr (.inr ⟨inside hbytes, Nat.succ_lt_succ hlength⟩)

namespace HeaderScan

/-! ## Line by line -/

variable {ended : Bool}

/-- The end of a block looks at the length only. -/
theorem finish_eq (scan : HeaderScan) (rest : Bytes) :
    scan.finish rest = .ofLength? scan.length rest := by
  unfold finish Header.ofLength?
  cases scan.length <;> rfl

/-- Bytes without a line feed are collected while there is room. -/
theorem run_content {scan : HeaderScan} {content : Bytes} (inside : 0x0A ∉ content)
    (fits : content.length < scan.room) (rest : Bytes) :
    run ended scan (content ++ rest) =
      run ended ⟨content.reverse ++ scan.line, scan.room - content.length, scan.seen, scan.length⟩
        rest := by
  induction content generalizing scan with
  | nil => simp
  | cons byte content ih =>
    obtain ⟨feed, inside⟩ := not_or.mp (List.mem_cons.not.mp inside)
    rw [List.length_cons] at fits
    have other : (byte == 0x0A) = false := by simpa using Ne.symm feed
    have spare : (scan.room - 1 == 0) = false := by
      simp only [beq_eq_false_iff_ne, ne_eq]
      omega
    rw [List.cons_append, run]
    simp only [other, spare, Bool.or_self, Bool.false_eq_true, if_false]
    rw [ih inside (by dsimp only; omega)]
    simp [Nat.sub_add_eq, Nat.sub_right_comm]

/-- A line that fits is taken up as a whole. -/
theorem run_line {room : Nat} {seen : Bool} {length : Option Nat} {line : Bytes}
    (isLine : IsLine line) (fits : line.length ≤ room) (rest : Bytes) :
    run ended ⟨[], room, seen, length⟩ (line ++ rest) =
      match takeLine ⟨line.reverse, room - line.length, seen, length⟩ true with
      | .fault fault => .fault fault rest
      | .done => .ofLength? length rest
      | .more next =>
        if next.room == 0 then .fault (.badHeader "") rest else run ended next rest := by
  obtain ⟨content, rfl, inside⟩ := isLine
  rw [List.length_append, List.length_singleton] at fits
  rw [List.append_assoc, run_content inside (by dsimp only; omega), List.singleton_append, run]
  simp only [finish_eq, Nat.sub_sub, beq_self_eq_true, Bool.true_or, if_true, List.append_nil,
    List.reverse_append, List.reverse_singleton, List.length_append, List.length_singleton]
  rfl

/-- Bytes that fill the room without a line feed are at fault. -/
theorem run_overlong {room : Nat} {seen : Bool} {length : Option Nat} {content : Bytes}
    (some : 0 < room) (inside : 0x0A ∉ content) (full : content.length = room) (rest : Bytes) :
    ∃ fault, fault.InHeader ∧
      run ended ⟨[], room, seen, length⟩ (content ++ rest) = .fault fault rest := by
  obtain ⟨front, byte, rfl⟩ : ∃ front byte, content = front ++ [byte] :=
    content.eq_nil_or_concat'.resolve_left (List.ne_nil_of_length_pos (full ▸ some))
  rw [List.length_append, List.length_singleton] at full
  rw [List.mem_append, List.mem_singleton, not_or] at inside
  have other : (byte == 0x0A) = false := by simpa using Ne.symm inside.2
  have spent : room - front.length - 1 = 0 := by omega
  obtain ⟨fault, early, faulty⟩ := takeLine_spent ⟨byte :: front.reverse, 0, seen, length⟩ rfl
  refine ⟨fault, early, ?_⟩
  rw [List.append_assoc, run_content inside.1 (by dsimp only; omega), List.singleton_append, run]
  simp only [other, spent, beq_self_eq_true, Bool.or_true, if_true, List.append_nil, faulty]

/-- A line cut short by the end of the stream is taken up as it is. -/
theorem run_tail {room : Nat} {seen : Bool} {length : Option Nat} {tail : Bytes}
    (inside : 0x0A ∉ tail) (fits : tail.length < room) :
    run true ⟨[], room, seen, length⟩ tail =
      atEnd ⟨tail.reverse, room - tail.length, seen, length⟩ := by
  have collected : run true ⟨[], room, seen, length⟩ (tail ++ []) = _ := run_content inside fits []
  rw [List.append_nil] at collected
  rw [collected, List.append_nil]
  rfl

/-! ## What each kind of line leads to -/

section Lines

variable {room : Nat} {seen : Bool} {length : Option Nat} {line : Bytes}

/-- A blank line before the headers only takes room. -/
theorem run_blank (isLine : IsLine line) (blank : IsBlank line) (fits : line.length ≤ room)
    (rest : Bytes) :
    run ended ⟨[], room, false, length⟩ (line ++ rest) =
      if room - line.length = 0 then .fault (.badHeader "") rest
      else run ended ⟨[], room - line.length, false, length⟩ rest := by
  rw [run_line isLine fits, takeLine_blank (.inl rfl) (by simpa using blank)]
  simp

/-- A header takes room and adds the length that it announces. -/
theorem run_header {announced : Option Nat} (isLine : IsLine line)
    (header : IsHeader line announced) (fits : line.length ≤ room) (rest : Bytes) :
    run ended ⟨[], room, seen, length⟩ (line ++ rest) =
      if room - line.length = 0 then .fault (.badHeader "") rest
      else run ended ⟨[], room - line.length, true, announced.or length⟩ rest := by
  rw [run_line isLine fits, takeLine_header (.inl rfl) (by simpa using header)]
  simp

/-- A blank line behind a header ends the block. -/
theorem run_last (isLine : IsLine line) (blank : IsBlank line) (fits : line.length ≤ room)
    (rest : Bytes) :
    run ended ⟨[], room, true, length⟩ (line ++ rest) = .ofLength? length rest := by
  rw [run_line isLine fits, takeLine_blank (.inl rfl) (by simpa using blank)]
  simp

/-- Any other line is at fault. -/
theorem run_other (isLine : IsLine line) (blank : ¬ IsBlank line)
    (header : ∀ announced, ¬ IsHeader line announced) (fits : line.length ≤ room) (rest : Bytes) :
    ∃ fault, fault.InHeader ∧
      run ended ⟨[], room, seen, length⟩ (line ++ rest) = .fault fault rest := by
  obtain ⟨fault, early, faulty⟩ :=
    takeLine_other ⟨line.reverse, room - line.length, seen, length⟩ true
      (by simpa using blank) (by simpa using header)
  exact ⟨fault, early, by rw [run_line isLine fits, faulty]⟩

end Lines

section Tails

variable {room : Nat} {seen : Bool} {length : Option Nat} {tail : Bytes}

/-- A stream that ends in blanks before any header has nothing more to offer. -/
theorem run_tail_nothing (inside : 0x0A ∉ tail) (blank : IsBlank tail) (fits : tail.length < room) :
    run true ⟨[], room, false, length⟩ tail = .nothing := by
  rw [run_tail inside fits, atEnd]
  have spare : 0 < room - tail.length := Nat.sub_pos_of_lt fits
  rw [takeLine_blank (.inr spare) (by simpa using blank)]
  simp

/-- Blanks at the end of the stream end a block as a line of them does. -/
theorem run_tail_last (some : tail ≠ []) (inside : 0x0A ∉ tail) (blank : IsBlank tail)
    (fits : tail.length < room) :
    run true ⟨[], room, true, length⟩ tail = .ofLength? length [] := by
  rw [run_tail inside fits, atEnd]
  have spare : 0 < room - tail.length := Nat.sub_pos_of_lt fits
  rw [takeLine_blank (.inr spare) (by simpa using blank)]
  simp [some, finish_eq]

/-- A stream that ends behind a header line ends inside the block. -/
theorem run_tail_nil (some : 0 < room) :
    run true ⟨[], room, true, length⟩ [] = .fault .endInHeader [] := by
  rw [run_tail List.not_mem_nil some]
  rfl

/-- So does a stream that ends inside a header line, if that can be read. -/
theorem run_tail_header {announced : Option Nat} (inside : 0x0A ∉ tail)
    (header : IsHeader tail announced) (fits : tail.length < room) :
    run true ⟨[], room, seen, length⟩ tail = .fault .endInHeader [] := by
  have some : tail ≠ [] := fun none => header.not_isBlank (none ▸ isBlank_nil)
  rw [run_tail inside fits, atEnd]
  have spare : 0 < room - tail.length := Nat.sub_pos_of_lt fits
  rw [takeLine_header (.inr spare) (by simpa using header)]
  simp [some]

/-- A text that is neither blank nor a header is shown in the fault. -/
theorem run_tail_unreadable {text : String} (inside : 0x0A ∉ Bytes.ofString text)
    (blank : ¬ IsBlank (Bytes.ofString text))
    (header : ∀ announced, ¬ HeaderText text.toList announced)
    (fits : (Bytes.ofString text).length < room) :
    run true ⟨[], room, seen, length⟩ (Bytes.ofString text) =
      .fault (.badHeader (Text.trim text)) [] := by
  have some : Bytes.ofString text ≠ [] := fun none => blank (none ▸ isBlank_nil)
  have spare : 0 < room - (Bytes.ofString text).length := Nat.sub_pos_of_lt fits
  rw [run_tail inside fits, atEnd,
    takeLine_unreadable (.inr spare) (List.reverse_reverse _) (by simpa using blank) header]
  simp [some]

/-- Anything else at the end of the stream is at fault. -/
theorem run_tail_other (inside : 0x0A ∉ tail) (blank : ¬ IsBlank tail)
    (header : ∀ announced, ¬ IsHeader tail announced) (fits : tail.length < room) :
    ∃ fault, fault.InHeader ∧ run true ⟨[], room, seen, length⟩ tail = .fault fault [] := by
  have some : tail ≠ [] := fun none => blank (none ▸ isBlank_nil)
  obtain ⟨fault, early, faulty⟩ :=
    takeLine_other ⟨tail.reverse, room - tail.length, seen, length⟩ false
      (by simpa using blank) (by simpa using header)
  refine ⟨fault, early, ?_⟩
  rw [run_tail inside fits, atEnd, faulty]
  simp [some]

end Tails

/-! ## Blocks -/

/-- Blank lines that leave room are skipped. -/
theorem run_blanks {room : Nat} {length : Option Nat} {blanks : List Bytes}
    (lines : ∀ line ∈ blanks, IsLine line ∧ IsBlank line) (fits : blanks.flatten.length < room)
    (rest : Bytes) :
    run ended ⟨[], room, false, length⟩ (blanks.flatten ++ rest) =
      run ended ⟨[], room - blanks.flatten.length, false, length⟩ rest := by
  induction blanks generalizing room with
  | nil => rfl
  | cons line blanks ih =>
    obtain ⟨⟨isLine, blank⟩, lines⟩ := List.forall_mem_cons.mp lines
    rw [List.flatten_cons, List.length_append] at fits
    rw [List.flatten_cons, List.append_assoc, run_blank isLine blank (by omega), if_neg (by omega),
      ih lines (by omega), List.length_append, Nat.sub_sub]

/-- The length announced last stands behind the one announced before the other headers. -/
theorem lastAnnounced_cons (header : Bytes × Option Nat) (headers : List (Bytes × Option Nat))
    (length : Option Nat) :
    (((header :: headers).filterMap Prod.snd).getLast?).or length =
      ((headers.filterMap Prod.snd).getLast?).or (header.2.or length) := by
  obtain ⟨line, announced⟩ := header
  cases announced with
  | none => rw [List.filterMap_cons_none rfl, Option.none_or]
  | some n =>
    rw [List.filterMap_cons_some (f := Prod.snd) rfl, List.getLast?_cons, Option.some_or,
      Option.some_or]
    cases (headers.filterMap Prod.snd).getLast? <;> rfl

/-- Headers that leave room are taken up one after the other. -/
theorem run_headers {room : Nat} {seen : Bool} {length : Option Nat}
    {headers : List (Bytes × Option Nat)}
    (lines : ∀ header ∈ headers, IsLine header.1 ∧ IsHeader header.1 header.2)
    (fits : (headers.map Prod.fst).flatten.length < room) (rest : Bytes) :
    run ended ⟨[], room, seen, length⟩ ((headers.map Prod.fst).flatten ++ rest) =
      run ended ⟨[], room - (headers.map Prod.fst).flatten.length, seen || !headers.isEmpty,
        (headers.filterMap Prod.snd).getLast?.or length⟩ rest := by
  induction headers generalizing room seen length with
  | nil => simp
  | cons header headers ih =>
    obtain ⟨⟨isLine, isHeader⟩, lines⟩ := List.forall_mem_cons.mp lines
    rw [List.map_cons, List.flatten_cons, List.length_append] at fits
    rw [List.map_cons, List.flatten_cons, List.append_assoc, run_header isLine isHeader (by omega),
      if_neg (by omega), ih lines (by omega), List.length_append, Nat.sub_sub, lastAnnounced_cons]
    simp

/-- A block, or what is left of one behind a header, is read to its end. -/
theorem run_block {room : Nat} {seen : Bool} {length : Option Nat} {block : Block} {rest : Bytes}
    (lines : block.Lines) (position : block.Continues seen) (within : block.Precedes room rest) :
    run true ⟨[], room, seen, length⟩ (block.bytes ++ rest) =
      .ofLength? (block.length?.or length) rest := by
  obtain ⟨blanks, headers, last⟩ := block
  have total : (Block.mk blanks headers last).bytes.length =
      blanks.flatten.length + (headers.map Prod.fst).flatten.length + last.length := by
    simp only [Block.bytes, List.length_append]
  have some : 0 < last.length := by
    rcases within with ⟨⟨content, hlast, -⟩, -⟩ | ⟨some, -⟩
    · rw [show last = content ++ [0x0A] from hlast, List.length_append, List.length_singleton]
      exact Nat.succ_pos _
    · exact List.length_pos_of_ne_nil some
  have fits : (Block.mk blanks headers last).bytes.length ≤ room :=
    within.elim And.right fun h => h.2.2.2.le
  have hblanks : blanks.flatten.length < room := by omega
  have hheaders : (headers.map Prod.fst).flatten.length < room - blanks.flatten.length := by omega
  have hlast : last.length ≤
      room - blanks.flatten.length - (headers.map Prod.fst).flatten.length := by omega
  have front : run true ⟨[], room, seen, length⟩ ((Block.mk blanks headers last).bytes ++ rest) =
      run true ⟨[], room - blanks.flatten.length - (headers.map Prod.fst).flatten.length, true,
        (headers.filterMap Prod.snd).getLast?.or length⟩ (last ++ rest) := by
    simp only [Block.bytes, List.append_assoc]
    cases seen with
    | false =>
      have filled : headers ≠ [] := position
      have marked : (!headers.isEmpty) = true := by simp [filled]
      rw [run_blanks lines.blanks hblanks, run_headers lines.headers hheaders, Bool.false_or,
        marked]
    | true =>
      have none : blanks = [] := position
      subst none
      exact run_headers lines.headers hheaders (last ++ rest)
  rw [front]
  rcases within with ⟨isLine, -⟩ | ⟨some, inside, rfl, short⟩
  · exact run_last isLine lines.last hlast rest
  · rw [List.append_nil]
    exact run_tail_last some inside lines.last (show last.length < _ by omega)

/-! ## What is read -/

/-- What reading bytes as a block, or as what is left of one behind a header, can come to. -/
inductive Outcome (room : Nat) (seen : Bool) (length : Option Nat) (bytes : Bytes) :
    Header → Prop where
  /-- The bytes begin with a block. -/
  | closed (block : Block) (rest : Bytes) (whole : bytes = block.bytes ++ rest)
    (lines : block.Lines) (position : block.Continues seen) (within : block.Precedes room rest) :
    Outcome room seen length bytes (.ofLength? (block.length?.or length) rest)
  /-- There are only blanks. -/
  | nothing (unseen : seen = false) (blanks : OnlyBlanks room bytes) :
    Outcome room seen length bytes .nothing
  /-- The lines of the block are at fault. -/
  | fault (fault : Fault) (rest : Bytes) (early : fault.InHeader) :
    Outcome room seen length bytes (.fault fault rest)

variable {room : Nat} {length : Option Nat} {line rest : Bytes} {result : Header}

/-- A blank line may be put in front. -/
theorem Outcome.blank (isLine : IsLine line) (blank : IsBlank line) (fits : line.length ≤ room)
    (outcome : Outcome (room - line.length) false length rest result) :
    Outcome room false length (line ++ rest) result := by
  cases outcome with
  | closed block rest whole lines position within =>
    have longer : Block.bytes ⟨line :: block.blanks, block.headers, block.last⟩ =
        line ++ block.bytes := by
      simp [Block.bytes]
    refine .closed ⟨line :: block.blanks, block.headers, block.last⟩ rest ?_ ?_ position ?_
    · rw [longer, whole, List.append_assoc]
    · exact ⟨List.forall_mem_cons.mpr ⟨⟨isLine, blank⟩, lines.blanks⟩, lines.headers, lines.last⟩
    · unfold Block.Precedes at within ⊢
      rw [longer, List.length_append]
      exact within.imp (fun h => ⟨h.1, by omega⟩) fun h => ⟨h.1, h.2.1, h.2.2.1, by omega⟩
  | nothing unseen blanks =>
    obtain ⟨blanks, tail, rfl, short, lines, inside, isBlank⟩ := blanks
    refine .nothing rfl ⟨line :: blanks, tail, ?_, ?_, ?_, inside, isBlank⟩
    · rw [List.flatten_cons, List.append_assoc]
    · rw [List.length_append]
      omega
    · exact List.forall_mem_cons.mpr ⟨⟨isLine, blank⟩, lines⟩
  | fault fault rest early => exact .fault fault rest early

/-- A header may be put in front of what is left behind it. -/
theorem Outcome.header {seen : Bool} {announced : Option Nat} (isLine : IsLine line)
    (header : IsHeader line announced) (fits : line.length ≤ room)
    (outcome : Outcome (room - line.length) true (announced.or length) rest result) :
    Outcome room seen length (line ++ rest) result := by
  cases outcome with
  | closed block rest whole lines position within =>
    have none : block.blanks = [] := position
    have longer : Block.bytes ⟨[], (line, announced) :: block.headers, block.last⟩ =
        line ++ block.bytes := by
      simp [Block.bytes, none]
    have last : block.length?.or (announced.or length) =
        (Block.length? ⟨[], (line, announced) :: block.headers, block.last⟩).or length :=
      (lastAnnounced_cons (line, announced) block.headers length).symm
    rw [last]
    refine .closed ⟨[], (line, announced) :: block.headers, block.last⟩ rest ?_ ?_ ?_ ?_
    · rw [longer, whole, List.append_assoc]
    · exact ⟨List.forall_mem_nil _, List.forall_mem_cons.mpr ⟨⟨isLine, header⟩, lines.headers⟩,
        lines.last⟩
    · cases seen with
      | false => exact List.cons_ne_nil _ _
      | true => exact rfl
    · unfold Block.Precedes at within ⊢
      rw [longer, List.length_append]
      exact within.imp (fun h => ⟨h.1, by omega⟩) fun h => ⟨h.1, h.2.1, h.2.2.1, by omega⟩
  | nothing unseen => cases unseen
  | fault fault rest early => exact .fault fault rest early

/-- Reading comes to nothing else. The induction is on the room, which every line takes
some of. -/
theorem run_outcome {seen : Bool} (some : 0 < room) (bytes : Bytes) :
    Outcome room seen length bytes (run true ⟨[], room, seen, length⟩ bytes) := by
  induction room using Nat.strong_induction_on generalizing seen length bytes with
  | _ room ih =>
  rcases cut_line room bytes with ⟨line, rest, rfl, isLine, fits⟩ |
    ⟨content, rest, rfl, inside, full⟩ | ⟨inside, short⟩
  · have taken : 0 < line.length := by
      obtain ⟨content, rfl, -⟩ := isLine
      simp
    by_cases blank : IsBlank line
    · cases seen with
      | false =>
        rw [run_blank isLine blank fits]
        split
        · exact .fault _ _ trivial
        · exact (ih _ (by omega) (by omega) rest).blank isLine blank fits
      | true =>
        rw [run_last isLine blank fits]
        refine .closed ⟨[], [], line⟩ rest rfl ?_ rfl (.inl ⟨isLine, fits⟩)
        exact ⟨List.forall_mem_nil _, List.forall_mem_nil _, blank⟩
    · by_cases header : ∃ announced, IsHeader line announced
      · obtain ⟨announced, header⟩ := header
        rw [run_header isLine header fits]
        split
        · exact .fault _ _ trivial
        · exact (ih _ (by omega) (by omega) rest).header isLine header fits
      · obtain ⟨fault, early, faulty⟩ :=
          run_other isLine blank (not_exists.mp header) fits rest
        rw [faulty]
        exact .fault fault rest early
  · obtain ⟨fault, early, faulty⟩ := run_overlong some inside full rest
    rw [faulty]
    exact .fault fault rest early
  · by_cases blank : IsBlank bytes
    · cases seen with
      | false =>
        rw [run_tail_nothing inside blank short]
        exact .nothing rfl ⟨[], bytes, rfl, short, List.forall_mem_nil _, inside, blank⟩
      | true =>
        by_cases none : bytes = []
        · subst none
          rw [run_tail_nil some]
          exact .fault _ _ trivial
        · rw [run_tail_last none inside blank short]
          refine .closed ⟨[], [], bytes⟩ [] (by simp [Block.bytes]) ?_ rfl
            (.inr ⟨none, inside, rfl, short⟩)
          exact ⟨List.forall_mem_nil _, List.forall_mem_nil _, blank⟩
    · by_cases header : ∃ announced, IsHeader bytes announced
      · obtain ⟨announced, header⟩ := header
        rw [run_tail_header inside header short]
        exact .fault _ _ trivial
      · obtain ⟨fault, early, faulty⟩ := run_tail_other inside blank (not_exists.mp header) short
        rw [faulty]
        exact .fault fault [] early

end HeaderScan

end LspGateway.Frame
