import LspGateway.Frame.Reader
import LspGateway.Proofs.Text.Reading

/-!
# The grammar of header blocks

A block is written down in lines: blank ones, then headers, then a blank one that ends
it. The definitions here say which lines are which and what a header announces, without
regard to how a block is read; after them stands what the reader makes of each kind of
line, and of bytes without a line feed.
-/

namespace LspGateway.Frame

/-! ## Lines -/

/-- A line ends with its only line feed. -/
def IsLine (line : Bytes) : Prop :=
  ∃ content, line = content ++ [0x0A] ∧ 0x0A ∉ content

/-- Bytes that encode nothing but blanks. -/
def IsBlank (bytes : Bytes) : Prop :=
  ∃ text, bytes = Bytes.ofString text ∧ ∀ c ∈ text.toList, Text.isBlank c = true

/-- Whether a header is the one for the length, which its name tells up to blanks around
it and the case of its letters. -/
def NamesLength (name : List Char) : Prop :=
  Text.lowerAscii (String.ofList (Text.trimChars name)) = "content-length"

/-- The text of a header, cut at its first colon, and the length that it announces: a
numeral if it is the header for that, and otherwise none. -/
inductive HeaderText : List Char → Option Nat → Prop where
  /-- A header of no consequence. -/
  | other (name value : List Char) (first : ':' ∉ name) (unnamed : ¬ NamesLength name) :
    HeaderText (name ++ ':' :: value) none
  /-- The header for the length. -/
  | length (name value : List Char) (n : Nat) (first : ':' ∉ name) (named : NamesLength name)
    (numeral : Text.IsNumeral (Text.trimChars value) n) : HeaderText (name ++ ':' :: value) (some n)

/-- Bytes that encode a header, and the length that it announces, if it does. -/
def IsHeader (bytes : Bytes) (announced : Option Nat) : Prop :=
  ∃ text, bytes = Bytes.ofString text ∧ HeaderText text.toList announced

/-! ## Blocks -/

/-- A header block in its lines. -/
structure Block where
  /-- The blank lines in front. -/
  blanks : List Bytes
  /-- The header lines, each with the length that it announces, if it does. -/
  headers : List (Bytes × Option Nat)
  /-- The blank line at the end. -/
  last : Bytes

namespace Block

/-- The bytes of a block. -/
def bytes (block : Block) : Bytes :=
  block.blanks.flatten ++ (block.headers.map Prod.fst).flatten ++ block.last

/-- The length announced last. -/
def length? (block : Block) : Option Nat :=
  (block.headers.filterMap Prod.snd).getLast?

/-- The lines of a block are what they should be, the last one perhaps without its line
feed. -/
structure Lines (block : Block) : Prop where
  /-- Blank lines come first. -/
  blanks : ∀ line ∈ block.blanks, IsLine line ∧ IsBlank line
  /-- Headers follow. -/
  headers : ∀ header ∈ block.headers, IsLine header.1 ∧ IsHeader header.1 header.2
  /-- A blank line ends the block. -/
  last : IsBlank block.last

/-- A block has a header besides. -/
structure WellFormed (block : Block) : Prop extends block.Lines where
  /-- There is a header. -/
  some : block.headers ≠ []

/-- A block within the budget, in front of other bytes. Its last line may lack its line
feed only at the end of the stream, and then some of the budget has to be left. -/
def Precedes (block : Block) (budget : Nat) (rest : Bytes) : Prop :=
  (IsLine block.last ∧ block.bytes.length ≤ budget) ∨
    (block.last ≠ [] ∧ 0x0A ∉ block.last ∧ rest = [] ∧ block.bytes.length < budget)

end Block

/-! ## What the reader makes of a line -/

/-- The parts around the first colon. -/
theorem splitColon?_eq_some_iff {chars name value : List Char} :
    splitColon? chars = some (name, value) ↔ chars = name ++ ':' :: value ∧ ':' ∉ name := by
  induction chars generalizing name with
  | nil => simp [splitColon?]
  | cons c rest ih =>
    by_cases colon : c = ':'
    · subst colon
      cases name with
      | nil => simp [splitColon?]
      | cons d more =>
        simp only [splitColon?, Option.some.injEq, Prod.mk.injEq, List.cons_append,
          List.cons.injEq, List.mem_cons, not_or]
        constructor
        · rintro ⟨hnil, -⟩
          cases hnil
        · rintro ⟨⟨hd, -⟩, hne, -⟩
          exact absurd hd hne
    · have step : splitColon? (c :: rest) =
          (splitColon? rest).map fun parts => (c :: parts.1, parts.2) := by
        simp only [splitColon?]
      rw [step, Option.map_eq_some_iff]
      constructor
      · rintro ⟨⟨more, _⟩, split, hparts⟩
        obtain ⟨rfl, rfl⟩ := Prod.mk.inj hparts
        obtain ⟨hrest, bare⟩ := ih.mp split
        exact ⟨congrArg (c :: ·) hrest, List.not_mem_cons_of_ne_of_not_mem (Ne.symm colon) bare⟩
      · rintro ⟨hchars, bare⟩
        cases name with
        | nil => exact absurd (List.cons.inj hchars).1 colon
        | cons d more =>
          obtain ⟨rfl, hrest⟩ := List.cons.inj hchars
          exact ⟨(more, value), ih.mpr ⟨hrest, fun h => bare (List.mem_cons_of_mem c h)⟩, rfl⟩

/-- Characters without a colon are not cut. -/
theorem splitColon?_eq_none_iff {chars : List Char} : splitColon? chars = none ↔ ':' ∉ chars := by
  rw [← not_iff_not, not_not, ← ne_eq, Option.ne_none_iff_exists']
  constructor
  · rintro ⟨⟨name, value⟩, split⟩
    rw [(splitColon?_eq_some_iff.mp split).1]
    exact List.mem_append_cons_self
  · intro colon
    obtain ⟨name, value, hchars, bare⟩ := List.eq_append_cons_of_mem colon
    exact ⟨(name, value), splitColon?_eq_some_iff.mpr ⟨hchars, bare⟩⟩

/-- Trimming goes along with the cut at the colon. -/
theorem splitColon?_trimChars (chars : List Char) :
    splitColon? (Text.trimChars chars) = (splitColon? chars).map fun (name, value) =>
      (name.dropWhile Text.isBlank, value.rdropWhile Text.isBlank) := by
  cases split : splitColon? chars with
  | none =>
    rw [Option.map_none, splitColon?_eq_none_iff]
    rw [splitColon?_eq_none_iff] at split
    exact fun colon => split ((Text.trimChars_sublist chars).subset colon)
  | some parts =>
    obtain ⟨name, value⟩ := parts
    obtain ⟨rfl, bare⟩ := splitColon?_eq_some_iff.mp split
    rw [Text.trimChars_around (by decide), Option.map_some, splitColon?_eq_some_iff]
    exact ⟨rfl, fun colon => bare ((List.dropWhile_sublist _).subset colon)⟩

/-- The text of a header as it is cut. -/
theorem headerText_iff {chars : List Char} {announced : Option Nat} :
    HeaderText chars announced ↔ ∃ name value, splitColon? chars = some (name, value) ∧
      (¬ NamesLength name ∧ announced = none ∨
        NamesLength name ∧ ∃ n, Text.IsNumeral (Text.trimChars value) n ∧ announced = some n) := by
  constructor
  · rintro (⟨name, value, first, unnamed⟩ | ⟨name, value, n, first, named, numeral⟩)
    · exact ⟨name, value, splitColon?_eq_some_iff.mpr ⟨rfl, first⟩, .inl ⟨unnamed, rfl⟩⟩
    · exact ⟨name, value, splitColon?_eq_some_iff.mpr ⟨rfl, first⟩, .inr ⟨named, n, numeral, rfl⟩⟩
  · rintro ⟨name, value, split, ⟨unnamed, rfl⟩ | ⟨named, n, numeral, rfl⟩⟩ <;>
      obtain ⟨rfl, first⟩ := splitColon?_eq_some_iff.mp split
    · exact .other name value first unnamed
    · exact .length name value n first named numeral

/-- A length is read exactly of a numeral. -/
theorem parseLength?_eq_some_iff {chars : List Char} {n : Nat} :
    parseLength? (String.ofList chars) = some n ↔ Text.IsNumeral chars n := by
  have numeral : Text.readUnsigned Text.maxWord (String.ofList chars) = .ok n ↔ _ :=
    Text.readUnsigned_eq_ok_iff
  rw [String.toList_ofList] at numeral
  rw [← numeral, parseLength?]
  cases Text.readUnsigned Text.maxWord (String.ofList chars) <;> simp [Except.toOption]

/-- A header line is read exactly of the text of a header. -/
theorem headerLength_eq_ok_iff {text : String} {announced : Option Nat} :
    headerLength (Text.trim text) = .ok announced ↔ HeaderText text.toList announced := by
  rw [headerText_iff]
  unfold headerLength
  rw [Text.trim, String.toList_ofList, splitColon?_trimChars]
  cases split : splitColon? text.toList with
  | none => simp
  | some parts =>
    obtain ⟨name, value⟩ := parts
    have trimmedName : Text.trim (String.ofList (name.dropWhile Text.isBlank)) =
        String.ofList (Text.trimChars name) := by
      rw [Text.trim, String.toList_ofList, Text.trimChars_dropWhile]
    have trimmedValue : Text.trim (String.ofList (value.rdropWhile Text.isBlank)) =
        String.ofList (Text.trimChars value) := by
      rw [Text.trim, String.toList_ofList, Text.trimChars_rdropWhile]
    simp only [Option.map_some, trimmedName, trimmedValue, Option.some.injEq, Prod.mk.injEq]
    by_cases named : NamesLength name
    · rw [if_neg (by simpa [NamesLength] using named)]
      cases parsed : parseLength? (String.ofList (Text.trimChars value)) with
      | none =>
        have numeral (n : Nat) : ¬ Text.IsNumeral (Text.trimChars value) n := by
          rw [← parseLength?_eq_some_iff, parsed]
          simp
        simp [named, numeral]
      | some n =>
        have numeral (m : Nat) : Text.IsNumeral (Text.trimChars value) m ↔ n = m := by
          rw [← parseLength?_eq_some_iff, parsed, Option.some.injEq]
        simp [named, numeral, eq_comm]
    · rw [if_pos (by simpa [NamesLength] using named)]
      simp [named, eq_comm]

/-- A faulty header line is shown. -/
theorem headerLength_eq_error {line : String} {fault : Fault}
    (faulty : headerLength line = .error fault) : fault = .badHeader line := by
  unfold headerLength at faulty
  split at faulty
  · cases faulty
    rfl
  · split at faulty
    · cases faulty
    · split at faulty
      · cases faulty
      · cases faulty
        rfl

/-- A fault found in the lines of a block, before the block is complete. -/
def Fault.InHeader : Fault → Prop
  | .endInHeader | .notText _ | .badHeader _ => True
  | .endInPayload | .stream _ | .missingLength | .tooLarge _ _ => False

/-- A header has its colon, so it is not blank. -/
theorem IsHeader.not_isBlank {bytes : Bytes} {announced : Option Nat}
    (header : IsHeader bytes announced) : ¬ IsBlank bytes := by
  rintro ⟨text, rfl, blank⟩
  obtain ⟨other, same, shape⟩ := header
  obtain rfl := Bytes.ofString_injective same
  obtain ⟨name, value, split, -⟩ := headerText_iff.mp shape
  have colon : ':' ∈ text.toList := by
    rw [(splitColon?_eq_some_iff.mp split).1]
    exact List.mem_append_cons_self
  exact absurd (blank ':' colon) (by decide)

/-- No bytes at all are blank. -/
theorem isBlank_nil : IsBlank [] :=
  ⟨String.ofList [], (Bytes.ofString_ofList_of_ascii (List.forall_mem_nil _)).symm, by simp⟩

namespace HeaderScan

variable {scan : HeaderScan} {terminated : Bool}

/-- What a line comes to that is text and did not run out of room. -/
theorem takeLine_of_text {text : String} (spare : terminated = true ∨ 0 < scan.room)
    (encoded : scan.line.reverse = Bytes.ofString text) :
    scan.takeLine terminated =
      if (Text.trim text).isEmpty then
        if scan.seen then .done else .more { scan with line := [] }
      else match headerLength (Text.trim text) with
        | .error fault => .fault fault
        | .ok announced =>
          .more { scan with line := [], seen := true, length := announced.or scan.length } := by
  have within : (!terminated && scan.room == 0) = false := by
    rcases spare with rfl | room
    · rfl
    · simp [Nat.ne_of_gt room]
  unfold takeLine
  rw [Utf8.decode_eq_ok_iff.mpr encoded]
  dsimp only
  refine (if_neg (Bool.eq_false_iff.mp within)).trans ?_
  cases headerLength (Text.trim text) <;> rfl

/-- A blank line ends the block after a header and is skipped before. -/
theorem takeLine_blank (spare : terminated = true ∨ 0 < scan.room)
    (blank : IsBlank scan.line.reverse) :
    scan.takeLine terminated = if scan.seen then .done else .more { scan with line := [] } := by
  obtain ⟨text, encoded, blank⟩ := blank
  rw [takeLine_of_text spare encoded, if_pos (Text.trim_isEmpty_iff.mpr blank)]

/-- A header adds the length that it announces. -/
theorem takeLine_header {announced : Option Nat} (spare : terminated = true ∨ 0 < scan.room)
    (header : IsHeader scan.line.reverse announced) :
    scan.takeLine terminated =
      .more { scan with line := [], seen := true, length := announced.or scan.length } := by
  have filled := header.not_isBlank
  obtain ⟨text, encoded, shape⟩ := header
  have htrim : ¬ (Text.trim text).isEmpty = true := fun empty =>
    filled ⟨text, encoded, Text.trim_isEmpty_iff.mp empty⟩
  rw [takeLine_of_text spare encoded, if_neg htrim, headerLength_eq_ok_iff.mpr shape]

/-- A line of text that is neither blank nor a header is shown in the fault. -/
theorem takeLine_unreadable {text : String} (spare : terminated = true ∨ 0 < scan.room)
    (encoded : scan.line.reverse = Bytes.ofString text)
    (blank : ¬ IsBlank scan.line.reverse)
    (header : ∀ announced, ¬ HeaderText text.toList announced) :
    scan.takeLine terminated = .fault (.badHeader (Text.trim text)) := by
  have htrim : ¬ (Text.trim text).isEmpty = true := fun empty =>
    blank ⟨text, encoded, Text.trim_isEmpty_iff.mp empty⟩
  rw [takeLine_of_text spare encoded, if_neg htrim]
  cases read : headerLength (Text.trim text) with
  | error fault => rw [headerLength_eq_error read]
  | ok announced => exact absurd (headerLength_eq_ok_iff.mp read) (header announced)

/-- Any other line is at fault. -/
theorem takeLine_other (scan : HeaderScan) (terminated : Bool) (blank : ¬ IsBlank scan.line.reverse)
    (header : ∀ announced, ¬ IsHeader scan.line.reverse announced) :
    ∃ fault, fault.InHeader ∧ scan.takeLine terminated = .fault fault := by
  unfold takeLine
  cases decoded : Utf8.decode scan.line.reverse with
  | error fault => exact ⟨.notText fault, trivial, rfl⟩
  | ok text =>
    have encoded := Utf8.decode_eq_ok_iff.mp decoded
    dsimp only
    split
    · exact ⟨.badHeader _, trivial, rfl⟩
    · rw [if_neg fun empty => blank ⟨text, encoded, Text.trim_isEmpty_iff.mp empty⟩]
      cases read : headerLength (Text.trim text) with
      | error fault =>
        exact ⟨fault, headerLength_eq_error read ▸ trivial, rfl⟩
      | ok announced =>
        exact absurd ⟨text, encoded, headerLength_eq_ok_iff.mp read⟩ (header announced)

/-- A line that ran out of room is at fault, whatever it says. -/
theorem takeLine_spent (scan : HeaderScan) (spent : scan.room = 0) :
    ∃ fault, fault.InHeader ∧ scan.takeLine false = .fault fault := by
  unfold takeLine
  cases Utf8.decode scan.line.reverse with
  | error fault => exact ⟨.notText fault, trivial, rfl⟩
  | ok text =>
    rw [spent]
    exact ⟨.badHeader _, trivial, rfl⟩

end HeaderScan

end LspGateway.Frame
