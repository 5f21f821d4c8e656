import LspGateway.Proofs.Frame.Recognition
import LspGateway.Proofs.Frame.Writing

/-!
# Reading what was written

A written frame is a header block of one line and its payload, so it is read back whatever
follows it, and blank lines in front of it are skipped.
-/

namespace LspGateway

namespace Frame

/-! ## Writing -/

/-- The bytes that writing a payload puts on a stream that takes everything. -/
def written (payload : Bytes) : Bytes :=
  (write Sink.unlimited payload).1.bytes

/-- They are the frame. -/
theorem written_eq (payload : Bytes) : written payload = encode payload := by
  have sound : Sink.unlimited.Sound := ⟨rfl, nofun, nofun⟩
  rw [written, write_eq sound, Sink.bytes_holding]
  rfl

/-! ## Characters of headers -/

/-- The start of a written header, up to the digits. -/
def label : List Char := "Content-Length: ".toList

/-- A line feed only comes from a line feed. -/
theorem feed_notMem {chars : List Char} (ascii : ∀ c ∈ chars, c.val ≤ 127) (inside : '\n' ∉ chars) :
    0x0A ∉ chars.map Char.toUInt8 := by
  rw [List.mem_map]
  rintro ⟨c, hc, feed⟩
  have low : c.val.toNat ≤ 127 := UInt32.le_iff_toNat_le.mp (ascii c hc)
  have byte : c.val.toNat % 256 = 10 := congrArg UInt8.toNat feed
  have same : c.val.toNat = 10 := by omega
  have hc' : c = '\n' := Char.ext (UInt32.toNat_inj.mp same)
  exact inside (hc' ▸ hc)

/-- A digit is ASCII, not blank and no line feed. -/
theorem digit_spec {c : Char} (digit : c.isDigit = true) :
    c.val ≤ 127 ∧ Text.isBlank c = false ∧ c ≠ '\n' := by
  rw [Char.isDigit, Bool.and_eq_true, decide_eq_true_eq, decide_eq_true_eq] at digit
  have low : 48 ≤ c.toNat := UInt32.le_iff_toNat_le.mp digit.1
  have high : c.toNat ≤ 57 := UInt32.le_iff_toNat_le.mp digit.2
  refine ⟨UInt32.le_iff_toNat_le.mpr (show c.toNat ≤ 127 by omega), ?_, ?_⟩
  · simp only [Text.isBlank, Bool.or_eq_false_iff, Bool.and_eq_false_iff, decide_eq_false_iff_not,
      beq_eq_false_iff_ne]
    omega
  · rintro rfl
    exact absurd low (by decide)

/-- The header of a number, whatever blanks come after it. -/
theorem headerText_label {digits blanks : List Char} (filled : digits ≠ [])
    (all : ∀ c ∈ digits, c.isDigit = true)
    (bounded : Nat.ofDigitChars 10 digits 0 ≤ Text.maxWord)
    (blank : ∀ c ∈ blanks, Text.isBlank c = true) :
    HeaderText (label ++ digits ++ blanks) (some (Nat.ofDigitChars 10 digits 0)) := by
  have whole : label ++ digits ++ blanks =
      "Content-Length".toList ++ ':' :: ' ' :: (digits ++ blanks) := by
    rw [List.append_assoc]
    rfl
  have value : Text.trimChars (' ' :: (digits ++ blanks)) = digits := by
    calc Text.trimChars (' ' :: (digits ++ blanks))
      _ = Text.trimChars (' ' :: digits) := Text.trimChars_append_blanks (' ' :: digits) blank
      _ = Text.trimChars digits := by
        rw [← Text.trimChars_dropWhile, List.dropWhile_cons_of_pos (by decide),
          Text.trimChars_dropWhile]
      _ = digits := Text.trimChars_eq_self fun c hc => (digit_spec (all c hc)).2.1
  rw [whole]
  refine .length _ _ _ (by decide) (by unfold NamesLength; decide) ?_
  rw [value]
  exact ⟨digits, .inl rfl, filled, all, rfl, bounded⟩

/-- The characters of a header are ASCII. -/
theorem label_ascii {digits blanks : List Char} (all : ∀ c ∈ digits, c.isDigit = true)
    (ascii : ∀ c ∈ blanks, c.val ≤ 127) : ∀ c ∈ label ++ digits ++ blanks, c.val ≤ 127 := by
  have front : ∀ c ∈ label, c.val ≤ 127 := Bytes.ascii_of_all (by decide)
  simp only [List.mem_append]
  rintro c ((hc | hc) | hc)
  · exact front c hc
  · exact (digit_spec (all c hc)).1
  · exact ascii c hc

/-- Its only line feeds are those at the end. -/
theorem label_feed_notMem {digits blanks : List Char} (all : ∀ c ∈ digits, c.isDigit = true)
    (ascii : ∀ c ∈ blanks, c.val ≤ 127) (inside : '\n' ∉ blanks) :
    0x0A ∉ (label ++ digits ++ blanks).map Char.toUInt8 := by
  refine feed_notMem (label_ascii all ascii) ?_
  simp only [List.mem_append]
  rintro ((hc | hc) | hc)
  · exact absurd hc (by decide)
  · exact (digit_spec (all _ hc)).2.2 rfl
  · exact inside hc

/-- Its bytes are a header. -/
theorem isHeader_label {digits blanks : List Char} (filled : digits ≠ [])
    (all : ∀ c ∈ digits, c.isDigit = true)
    (bounded : Nat.ofDigitChars 10 digits 0 ≤ Text.maxWord)
    (blank : ∀ c ∈ blanks, Text.isBlank c = true) (ascii : ∀ c ∈ blanks, c.val ≤ 127) :
    IsHeader ((label ++ digits ++ blanks).map Char.toUInt8)
      (some (Nat.ofDigitChars 10 digits 0)) := by
  refine ⟨String.ofList (label ++ digits ++ blanks), ?_, ?_⟩
  · exact (Bytes.ofString_ofList_of_ascii (label_ascii all ascii)).symm
  · rw [String.toList_ofList]
    exact headerText_label filled all bounded blank

/-- ASCII blanks are blank. -/
theorem isBlank_ascii {blanks : List Char} (blank : ∀ c ∈ blanks, Text.isBlank c = true)
    (ascii : ∀ c ∈ blanks, c.val ≤ 127) : IsBlank (blanks.map Char.toUInt8) :=
  ⟨String.ofList blanks, (Bytes.ofString_ofList_of_ascii ascii).symm, by
    rwa [String.toList_ofList]⟩

/-! ## Headers of payloads -/

/-- The digits of a number. -/
theorem toDigits_spec (n : Nat) :
    Nat.toDigits 10 n ≠ [] ∧ (∀ c ∈ Nat.toDigits 10 n, c.isDigit = true) ∧
      Nat.ofDigitChars 10 (Nat.toDigits 10 n) 0 = n :=
  ⟨Nat.toDigits_ne_nil, fun _ => Nat.isDigit_of_mem_toDigits (by decide) (by decide),
    Nat.ofDigitChars_ten_toDigits⟩

/-- The line of a header. -/
def headerLine (n : Nat) : Bytes := (label ++ Nat.toDigits 10 n ++ ['\r', '\n']).map Char.toUInt8

/-- The empty line behind the header. -/
def emptyLine : Bytes := ['\r', '\n'].map Char.toUInt8

/-- A header is written as its line and an empty one. -/
theorem header_eq (payload : Bytes) : header payload = headerLine payload.length ++ emptyLine := by
  have text : s!"Content-Length: {payload.length}\r\n\r\n" =
      String.ofList (label ++ Nat.toDigits 10 payload.length ++ ['\r', '\n', '\r', '\n']) := by
    simp only [toString, Nat.repr_eq_ofList_toDigits]
    rw [String.ofList_append, String.ofList_append]
    rfl
  rw [header, text, Bytes.ofString_ofList_of_ascii
    (label_ascii (toDigits_spec payload.length).2.1 (Bytes.ascii_of_all (by decide))), headerLine,
    emptyLine,
    ← List.map_append, List.append_assoc (label ++ _)]
  rfl

/-- The line of a header is a header. -/
theorem headerLine_spec {n : Nat} (bounded : n ≤ Text.maxWord) :
    IsLine (headerLine n) ∧ IsHeader (headerLine n) (some n) := by
  obtain ⟨filled, all, value⟩ := toDigits_spec n
  have cut : label ++ Nat.toDigits 10 n ++ ['\r', '\n'] =
      (label ++ Nat.toDigits 10 n ++ ['\r']) ++ ['\n'] := by
    rw [List.append_assoc _ ['\r'] ['\n']]
    rfl
  refine ⟨⟨(label ++ Nat.toDigits 10 n ++ ['\r']).map Char.toUInt8, ?_, ?_⟩, ?_⟩
  · rw [headerLine, cut, List.map_append]
    rfl
  · exact label_feed_notMem all (Bytes.ascii_of_all (by decide)) (by decide)
  · have isHeader := isHeader_label filled all (value.symm ▸ bounded)
      (List.all_eq_true.mp (by decide : ['\r', '\n'].all Text.isBlank = true))
      (Bytes.ascii_of_all (by decide))
    rwa [value] at isHeader

/-- The empty line is a blank one. -/
theorem emptyLine_spec : IsLine emptyLine ∧ IsBlank emptyLine :=
  ⟨⟨[0x0D], rfl, by decide⟩,
    isBlank_ascii (List.all_eq_true.mp (by decide)) (Bytes.ascii_of_all (by decide))⟩

/-- How long a header is. -/
theorem header_length (payload : Bytes) :
    (header payload).length = label.length + (Nat.toDigits 10 payload.length).length + 4 := by
  simp only [header_eq, headerLine, emptyLine, List.length_append, List.length_map,
    List.length_cons, List.length_nil]

/-- A header for a number of 64 bits is far within the budget. -/
theorem header_length_le {payload : Bytes} (bounded : payload.length ≤ Text.maxWord) :
    (header payload).length ≤ 40 := by
  have digits : (Nat.toDigits 10 payload.length).length ≤ 20 :=
    (Nat.length_toDigits_le_iff (by decide) (by decide)).mpr
      (lt_of_le_of_lt bounded (by decide))
  have front : label.length = 16 := by decide
  rw [header_length]
  omega

/-! ## Whole frames -/

variable {payload rest : Bytes} {limit : Nat}

/-- A header announces its payload, whatever blank lines stand before it. -/
theorem opens_header {blanks : List Bytes} (lines : ∀ line ∈ blanks, IsLine line ∧ IsBlank line)
    (fits : blanks.flatten.length + (header payload).length ≤ headerBudget)
    (bounded : payload.length ≤ Text.maxWord) (rest : Bytes) :
    Opens (blanks.flatten ++ header payload ++ rest) (some payload.length) rest := by
  have whole :
      (Block.mk blanks [(headerLine payload.length, some payload.length)] emptyLine).bytes =
        blanks.flatten ++ header payload := by
    simp [Block.bytes, header_eq]
  refine ⟨⟨blanks, [(headerLine payload.length, some payload.length)], emptyLine⟩,
    ⟨⟨lines, ?_, emptyLine_spec.2⟩, List.cons_ne_nil _ _⟩, ?_, .inl ⟨emptyLine_spec.1, ?_⟩, rfl⟩
  · exact List.forall_mem_singleton.mpr (headerLine_spec bounded)
  · rw [whole]
  · rw [whole, List.length_append]
    exact fits

/-- So a written frame is read back, and what follows it is left. -/
theorem read_encode {blanks : List Bytes} (lines : ∀ line ∈ blanks, IsLine line ∧ IsBlank line)
    (fits : blanks.flatten.length + (header payload).length ≤ headerBudget)
    (word : limit ≤ Text.maxWord) (admitted : payload.length ≤ limit) (rest : Bytes) :
    read limit true (blanks.flatten ++ encode payload ++ rest) = .frame payload rest := by
  have opens := opens_header lines fits (admitted.trans word) (payload ++ rest)
  rw [read_eq_frame_iff, encode, ← List.append_assoc, List.append_assoc]
  exact ⟨opens, admitted⟩

end Frame

end LspGateway
