import LspGateway.Json.Printer
import LspGateway.Json.Reader
import LspGateway.Proofs.Text.Reading

/-!
# Reading printed strings and numbers

The reader of strings takes back what the printer escapes, character by character, whatever
the characters are. The reader of numbers takes back the decimals of every integer that fits
64 bits, provided that nothing follows which would continue the number.
-/

namespace LspGateway

/-! ## Encoded characters -/

namespace Bytes

/-- The UTF-8 encoding of characters. -/
def ofChars (chars : List Char) : Bytes :=
  ofString (String.ofList chars)

/-- Characters are encoded one after the other. -/
theorem ofChars_append (first second : List Char) :
    ofChars (first ++ second) = ofChars first ++ ofChars second := by
  rw [ofChars, String.ofList_append, ofString_append]
  rfl

/-- ASCII characters are encoded as single bytes. -/
theorem ofChars_of_ascii {chars : List Char} (ascii : chars.all (·.val ≤ 127) = true) :
    ofChars chars = chars.map Char.toUInt8 :=
  ofString_ofList_of_ascii (ascii_of_all ascii)

/-- So is one in front of others. -/
theorem ofChars_cons {c : Char} (ascii : c.val ≤ 127) (rest : List Char) :
    ofChars (c :: rest) = c.toUInt8 :: ofChars rest := by
  have one : ofChars [c] = [c.toUInt8] := ofChars_of_ascii (by simpa using ascii)
  rw [← List.singleton_append, ofChars_append, one, List.singleton_append]

/-- A character on its own. -/
theorem ofChars_singleton (c : Char) : ofChars [c] = String.utf8EncodeChar c := by
  simp [ofChars, ofString, toList_packed, List.utf8Encode_singleton]

/-- The byte of an ASCII character has its value. -/
theorem toNat_toUInt8_of_ascii {c : Char} (ascii : c.val ≤ 127) : c.toUInt8.toNat = c.toNat := by
  have low : c.val.toNat ≤ 127 := UInt32.le_iff_toNat_le.mp ascii
  change c.val.toNat % 256 = c.val.toNat
  omega

/-- A text is encoded as its characters. -/
theorem ofChars_toList (text : String) : ofChars text.toList = ofString text := by
  rw [ofChars, String.ofList_toList]

/-- A character beyond ASCII is encoded as bytes beyond ASCII. -/
theorem not_ascii_of_mem_ofChars {c : Char} (wide : ¬ c.val ≤ 127) {byte : UInt8}
    (inside : byte ∈ ofChars [c]) : 128 ≤ byte.toNat := by
  rw [ofChars_singleton] at inside
  have value : ¬ c.val.toNat ≤ 127 := fun low => wide (UInt32.le_iff_toNat_le.mpr low)
  unfold String.utf8EncodeChar at inside
  simp only [value, if_false] at inside
  split at inside
  · simp only [List.mem_cons, List.not_mem_nil, or_false] at inside
    rcases inside with rfl | rfl <;> rw [UInt8.toNat_ofNat'] <;> omega
  · split at inside
    · simp only [List.mem_cons, List.not_mem_nil, or_false] at inside
      rcases inside with rfl | rfl | rfl <;> rw [UInt8.toNat_ofNat'] <;> omega
    · simp only [List.mem_cons, List.not_mem_nil, or_false] at inside
      rcases inside with rfl | rfl | rfl | rfl <;> rw [UInt8.toNat_ofNat'] <;> omega

end Bytes

namespace Json.Reader

/-! ## Strings -/

/-- A byte that stands for itself in a string. -/
def IsPlain (byte : UInt8) : Prop :=
  ¬ byte < 0x20 ∧ (byte == 0x22) = false ∧ (byte == 0x5C) = false

/-- Bytes that stand for themselves are taken one by one. -/
theorem stringBytes_plain {bytes : Bytes} (plain : ∀ byte ∈ bytes, IsPlain byte) (fuel : Nat)
    (read rest : Bytes) :
    stringBytes (bytes.length + fuel) read (bytes ++ rest) =
      stringBytes fuel (bytes.reverse ++ read) rest := by
  induction bytes generalizing read with
  | nil => simp
  | cons byte bytes ih =>
    obtain ⟨⟨visible, noQuote, noEscape⟩, others⟩ := List.forall_mem_cons.mp plain
    have more : (byte :: bytes).length + fuel = bytes.length + fuel + 1 := by
      rw [List.length_cons]
      omega
    rw [more, List.cons_append, stringBytes, noQuote, noEscape]
    simp only [Bool.false_eq_true, if_false, if_neg visible]
    rw [ih others, List.reverse_cons, List.append_assoc, List.singleton_append]

/-- An escape is taken as the character that it stands for. -/
theorem stringBytes_escape {bytes : Bytes} {c : Char} {rest : Bytes}
    (h : escape bytes = .ok (c, rest)) (fuel : Nat) (read : Bytes) :
    stringBytes (fuel + 1) read (0x5C :: bytes) =
      stringBytes fuel ((Bytes.ofChars [c]).reverse ++ read) rest := by
  have same : Bytes.ofString c.toString = Bytes.ofChars [c] := by
    rw [Bytes.ofChars, ← String.singleton_eq_ofList]
    rfl
  rw [stringBytes, if_neg (by decide), if_pos (by decide), h]
  exact congrArg (fun bytes => stringBytes fuel (bytes.reverse ++ read) rest) same

/-- A hexadecimal digit is read back. -/
theorem hexValue?_hexDigit {n : Nat} (h : n < 16) :
    (hexDigit n).val ≤ 127 ∧ hexValue? (hexDigit n).toUInt8 = some n := by
  have all : ∀ n < 16, (hexDigit n).val ≤ 127 ∧ hexValue? (hexDigit n).toUInt8 = some n := by
    decide
  exact all n h

/-- A visible character other than the quote and the backslash stands for itself. -/
theorem isPlain_of_mem_ofChars {c : Char} (visible : ¬ c.toNat < 0x20)
    (noQuote : ¬ (c == '"') = true) (noBackslash : ¬ (c == '\\') = true) :
    ∀ byte ∈ Bytes.ofChars [c], IsPlain byte := by
  intro byte inside
  by_cases ascii : c.val ≤ 127
  · have single : Bytes.ofChars [c] = [c.toUInt8] := Bytes.ofChars_of_ascii (by simpa using ascii)
    rw [single, List.mem_singleton] at inside
    have value : byte.toNat = c.toNat := by rw [inside, Bytes.toNat_toUInt8_of_ascii ascii]
    have unlike {other : Char} (different : ¬ (c == other) = true) : byte.toNat ≠ other.toNat :=
      fun same => different (beq_iff_eq.mpr (Char.toNat_inj.mp (value.symm.trans same)))
    refine ⟨fun low => ?_, beq_eq_false_iff_ne.mpr ?_, beq_eq_false_iff_ne.mpr ?_⟩
    · have bound : byte.toNat < 32 := UInt8.lt_iff_toNat_lt.mp low
      omega
    · rintro rfl
      exact unlike noQuote rfl
    · rintro rfl
      exact unlike noBackslash rfl
  · have wide : 128 ≤ byte.toNat := Bytes.not_ascii_of_mem_ofChars ascii inside
    refine ⟨fun low => ?_, beq_eq_false_iff_ne.mpr ?_, beq_eq_false_iff_ne.mpr ?_⟩
    · have bound : byte.toNat < 32 := UInt8.lt_iff_toNat_lt.mp low
      omega
    · rintro rfl
      exact absurd wide (by decide)
    · rintro rfl
      exact absurd wide (by decide)

/-- A control character is read back from its two hexadecimal digits. -/
theorem unicodeEscape_control {c : Char} (control : c.toNat < 0x20) (rest : Bytes) :
    unicodeEscape (0x30 :: 0x30 :: (hexDigit (c.toNat / 16)).toUInt8 ::
      (hexDigit (c.toNat % 16)).toUInt8 :: rest) = .ok (c, rest) := by
  have zero : hexValue? 0x30 = some 0 := rfl
  have high := (hexValue?_hexDigit (n := c.toNat / 16) (by omega)).2
  have low := (hexValue?_hexDigit (n := c.toNat % 16) (by omega)).2
  have whole : 0 * 4096 + 0 * 256 + c.toNat / 16 * 16 + c.toNat % 16 = c.toNat := by omega
  have unit : hexEscape (0x30 :: 0x30 :: (hexDigit (c.toNat / 16)).toUInt8 ::
      (hexDigit (c.toNat % 16)).toUInt8 :: rest) = .ok (c.toNat, rest) := by
    simp only [hexEscape, zero, high, low, whole]
  have noTrailing : ¬ (decide (0xDC00 ≤ c.toNat) && decide (c.toNat ≤ 0xDFFF)) = true := by
    simp
    omega
  have noLeading : ¬ (decide (0xD800 ≤ c.toNat) && decide (c.toNat ≤ 0xDBFF)) = true := by
    simp
    omega
  unfold unicodeEscape
  rw [unit]
  simp only [if_neg noTrailing, if_neg noLeading, Char.ofNat_toNat]

/-- A printed character is one that stands for itself, or an escape that stands for it. -/
theorem escapeChar_spec (c : Char) :
    (escapeChar c = [c] ∧ ∀ byte ∈ Bytes.ofChars [c], IsPlain byte) ∨
      ∃ bytes, Bytes.ofChars (escapeChar c) = 0x5C :: bytes ∧
        ∀ rest, escape (bytes ++ rest) = .ok (c, rest) := by
  have short {stood letter : Char} (same : (c == stood) = true)
      (ascii : ['\\', letter].all (·.val ≤ 127) = true)
      (stands : ∀ rest, escape (letter.toUInt8 :: rest) = .ok (stood, rest)) :
      ∃ bytes, Bytes.ofChars ['\\', letter] = 0x5C :: bytes ∧
        ∀ rest, escape (bytes ++ rest) = .ok (c, rest) := by
    rw [beq_iff_eq.mp same]
    exact ⟨[letter.toUInt8], Bytes.ofChars_of_ascii ascii, stands⟩
  unfold escapeChar
  split_ifs with quote backslash backspace tab feed form carriage control
  · exact .inr (short quote (by decide) fun _ => rfl)
  · exact .inr (short backslash (by decide) fun _ => rfl)
  · exact .inr (short backspace (by decide) fun _ => rfl)
  · exact .inr (short tab (by decide) fun _ => rfl)
  · exact .inr (short feed (by decide) fun _ => rfl)
  · exact .inr (short form (by decide) fun _ => rfl)
  · exact .inr (short carriage (by decide) fun _ => rfl)
  · have high := (hexValue?_hexDigit (n := c.toNat / 16) (by omega)).1
    have low := (hexValue?_hexDigit (n := c.toNat % 16) (by omega)).1
    exact .inr ⟨[0x75, 0x30, 0x30, (hexDigit (c.toNat / 16)).toUInt8,
      (hexDigit (c.toNat % 16)).toUInt8], Bytes.ofChars_of_ascii (by simp [high, low]),
      unicodeEscape_control control⟩
  · exact .inl ⟨rfl, isPlain_of_mem_ofChars control quote backslash⟩

/-- Printed characters are taken as what they stand for. Escapes leave some fuel over. -/
theorem stringBytes_chars (chars : List Char) (fuel : Nat) (read rest : Bytes) :
    ∃ spare, stringBytes ((Bytes.ofChars (chars.flatMap escapeChar)).length + fuel) read
        (Bytes.ofChars (chars.flatMap escapeChar) ++ rest) =
      stringBytes (spare + fuel) ((Bytes.ofChars chars).reverse ++ read) rest := by
  induction chars generalizing fuel read with
  | nil =>
    have none : Bytes.ofChars [] = [] := Bytes.ofChars_of_ascii rfl
    exact ⟨0, by simp [none]⟩
  | cons c chars ih =>
    have first (fuel : Nat) (more : Bytes) : ∃ spare,
        stringBytes ((Bytes.ofChars (escapeChar c)).length + fuel) read
          (Bytes.ofChars (escapeChar c) ++ more) =
        stringBytes (spare + fuel) ((Bytes.ofChars [c]).reverse ++ read) more := by
      rcases escapeChar_spec c with ⟨same, plain⟩ | ⟨bytes, printed, stands⟩
      · rw [same]
        exact ⟨0, by rw [stringBytes_plain plain, Nat.zero_add]⟩
      · refine ⟨bytes.length, ?_⟩
        have more' : (0x5C :: bytes).length + fuel = bytes.length + fuel + 1 := by
          rw [List.length_cons]
          omega
        rw [printed, more', List.cons_append, stringBytes_escape (stands more)]
    have whole : Bytes.ofChars (c :: chars) = Bytes.ofChars [c] ++ Bytes.ofChars chars :=
      Bytes.ofChars_append [c] chars
    rw [List.flatMap_cons, Bytes.ofChars_append, List.length_append, Nat.add_assoc,
      List.append_assoc]
    obtain ⟨spare, hfirst⟩ := first
      ((Bytes.ofChars (chars.flatMap escapeChar)).length + fuel)
      (Bytes.ofChars (chars.flatMap escapeChar) ++ rest)
    obtain ⟨further, hrest⟩ := ih (spare + fuel) ((Bytes.ofChars [c]).reverse ++ read)
    refine ⟨further + spare, ?_⟩
    rw [hfirst, Nat.add_left_comm, hrest, whole, List.reverse_append, List.append_assoc,
      Nat.add_assoc]

/-- The bytes of a printed string behind its opening quote. -/
def quotedTail (text : String) : Bytes :=
  Bytes.ofChars (text.toList.flatMap escapeChar ++ ['"'])

/-- In front of them stands the quote. -/
theorem ofChars_stringChars (text : String) :
    Bytes.ofChars (stringChars text) = 0x22 :: quotedTail text :=
  Bytes.ofChars_cons (by decide) _

/-- A printed string is read back, from behind its opening quote. -/
theorem string_printed (text : String) (rest : Bytes) :
    string (quotedTail text ++ rest) = .ok (text, rest) := by
  have quote : Bytes.ofChars ['"'] = [0x22] := Bytes.ofChars_of_ascii (by decide)
  have bytes : quotedTail text ++ rest =
      Bytes.ofChars (text.toList.flatMap escapeChar) ++ 0x22 :: rest := by
    rw [quotedTail, Bytes.ofChars_append, quote, List.append_assoc]
    rfl
  obtain ⟨spare, taken⟩ :=
    stringBytes_chars text.toList (rest.length + 1 + 1) [] (0x22 :: rest)
  have decoded : Utf8.decode (Bytes.ofChars text.toList) = .ok text :=
    Utf8.decode_eq_ok_iff.mpr (Bytes.ofChars_toList text)
  have closed (read : Bytes) :
      stringBytes (spare + (rest.length + 1 + 1)) read (0x22 :: rest) = .ok (read, rest) := rfl
  unfold string
  rw [bytes, List.length_append, List.length_cons, Nat.add_assoc, taken, closed, List.append_nil]
  simp only [List.reverse_reverse, decoded]

/-! ## Numbers -/

/-- What does not continue a number: no digit, no point and no exponent. -/
def EndsNumber : Bytes → Prop
  | [] => True
  | byte :: _ => isDigit byte = false ∧ (byte == 0x2E) = false ∧ opensExponent byte = false

/-- The digits before such an end are a whole number. -/
theorem numberTail_eq {rest : Bytes} (ends : EndsNumber rest) (negative : Bool) (d : Digits) :
    numberTail negative d rest = wholeNumber negative d rest := by
  cases rest with
  | nil => rfl
  | cons byte rest =>
    obtain ⟨-, noPoint, noExponent⟩ := ends
    rw [numberTail, noPoint, noExponent]
    rfl

/-- A digit has the byte of its value. -/
theorem isDigit_toUInt8 {c : Char} (digit : c.isDigit = true) :
    c.val ≤ 127 ∧ isDigit c.toUInt8 = true ∧ digitValue c.toUInt8 = c.toNat - '0'.toNat := by
  rw [Char.isDigit, Bool.and_eq_true, decide_eq_true_eq, decide_eq_true_eq] at digit
  have low : 48 ≤ c.toNat := UInt32.le_iff_toNat_le.mp digit.1
  have high : c.toNat ≤ 57 := UInt32.le_iff_toNat_le.mp digit.2
  have ascii : c.val ≤ 127 := UInt32.le_iff_toNat_le.mpr (show c.toNat ≤ 127 by omega)
  have value : c.toUInt8.toNat = c.toNat := Bytes.toNat_toUInt8_of_ascii ascii
  refine ⟨ascii, ?_, ?_⟩
  · have above : (0x30 : UInt8) ≤ c.toUInt8 := UInt8.le_iff_toNat_le.mpr (by rw [value]; exact low)
    have below : c.toUInt8 ≤ 0x39 := UInt8.le_iff_toNat_le.mpr (by rw [value]; exact high)
    simp [isDigit, above, below]
  · rw [digitValue, value]
    rfl

/-- Digits are collected as long as the number fits 64 bits. -/
theorem digits_chars {chars : List Char} (all : ∀ c ∈ chars, c.isDigit = true) {rest : Bytes}
    (ends : EndsNumber rest) (value taken : Nat)
    (fits : Nat.ofDigitChars 10 chars value ≤ maxSignificand) :
    digits ⟨value, taken, 0⟩ (Bytes.ofChars chars ++ rest) =
      (⟨Nat.ofDigitChars 10 chars value, taken + chars.length, 0⟩, rest) := by
  induction chars generalizing value taken with
  | nil =>
    have none : Bytes.ofChars [] = [] := Bytes.ofChars_of_ascii rfl
    rw [none, List.nil_append]
    cases rest with
    | nil => rfl
    | cons byte rest =>
      rw [digits, ends.1]
      rfl
  | cons c chars ih =>
    obtain ⟨first, others⟩ := List.forall_mem_cons.mp all
    obtain ⟨ascii, digit, worth⟩ := isDigit_toUInt8 first
    have step : Nat.ofDigitChars 10 (c :: chars) value =
        Nat.ofDigitChars 10 chars (value * 10 + (c.toNat - '0'.toNat)) := by
      rw [Nat.ofDigitChars_cons, Nat.mul_comm]
    rw [step] at fits ⊢
    have small : value * 10 + (c.toNat - '0'.toNat) ≤ maxSignificand :=
      (Text.le_ofDigitChars chars _).trans fits
    rw [Bytes.ofChars_cons ascii, List.cons_append, digits, if_pos digit, worth]
    simp only [beq_self_eq_true, Bool.true_and, decide_eq_true_eq, if_pos small]
    rw [ih others _ _ fits, List.length_cons]
    congr 2
    omega

/-- The decimals of a number other than zero do not begin with a zero. -/
theorem head_toDigits {n : Nat} (positive : 0 < n) :
    ∃ c rest, Nat.toDigits 10 n = c :: rest ∧ c ≠ '0' := by
  induction n using Nat.strongRecOn with
  | ind n ih =>
    by_cases small : n < 10
    · refine ⟨n.digitChar, [], Nat.toDigits_of_lt_base small, ?_⟩
      have all : ∀ n < 10, 0 < n → n.digitChar ≠ '0' := by decide
      exact all n small positive
    · obtain ⟨c, rest, front, nonzero⟩ := ih (n / 10) (by omega) (by omega)
      refine ⟨c, rest ++ [(n % 10).digitChar], ?_, nonzero⟩
      rw [Nat.toDigits_eq_if (by decide), if_neg small, front, List.cons_append]

/-- The decimals of a number are read as that number. -/
theorem number_toDigits {n : Nat} (fits : n ≤ maxSignificand) {rest : Bytes}
    (ends : EndsNumber rest) (negative : Bool) :
    ∃ taken, number negative (Bytes.ofChars (Nat.toDigits 10 n) ++ rest) =
      wholeNumber negative ⟨n, taken, 0⟩ rest := by
  rcases Nat.eq_zero_or_pos n with rfl | positive
  · refine ⟨1, ?_⟩
    have zero : Bytes.ofChars (Nat.toDigits 10 0) = [0x30] := Bytes.ofChars_of_ascii (by decide)
    rw [zero, ← numberTail_eq ends]
    cases rest with
    | nil => rfl
    | cons next rest =>
      rw [List.singleton_append, number, if_pos (by decide)]
      simp only [ends.1, Bool.false_eq_true, if_false]
  · obtain ⟨c, chars, front, nonzero⟩ := head_toDigits positive
    have all : ∀ d ∈ Nat.toDigits 10 n, d.isDigit = true :=
      fun _ => Nat.isDigit_of_mem_toDigits (by decide) (by decide)
    have value : Nat.ofDigitChars 10 (Nat.toDigits 10 n) 0 = n := Nat.ofDigitChars_ten_toDigits
    rw [front] at all value ⊢
    obtain ⟨first, others⟩ := List.forall_mem_cons.mp all
    obtain ⟨ascii, digit, worth⟩ := isDigit_toUInt8 first
    have unlike : (c.toUInt8 == 0x30) = false := by
      refine beq_eq_false_iff_ne.mpr fun same => nonzero (Char.toNat_inj.mp ?_)
      rw [← Bytes.toNat_toUInt8_of_ascii ascii, same]
      rfl
    have step : Nat.ofDigitChars 10 chars (c.toNat - '0'.toNat) = n := by
      rw [← value, Nat.ofDigitChars_cons, Nat.mul_zero, Nat.zero_add]
    refine ⟨1 + chars.length, ?_⟩
    rw [Bytes.ofChars_cons ascii, List.cons_append]
    unfold number
    simp only [unlike, digit, worth, Bool.false_eq_true, if_false, if_true]
    rw [digits_chars others ends _ 1 (step.symm ▸ fits), step]
    exact numberTail_eq ends negative _

/-- An integer below zero is read exactly if it fits 64 bits. -/
theorem wholeNumber_negative {n : Nat} (positive : 0 < n) (fits : n ≤ 0x8000000000000000)
    (taken : Nat) (rest : Bytes) :
    wholeNumber true ⟨n, taken, 0⟩ rest = .ok (.integer (-(n : Int)), rest) := by
  have some : (n == 0) = false := beq_eq_false_iff_ne.mpr positive.ne'
  have small : decide (0x8000000000000000 < n) = false := decide_eq_false (Nat.not_lt.mpr fits)
  have exact : ¬ (n == 0 || decide (0x8000000000000000 < n)) = true := by
    rw [some, small]
    exact Bool.false_ne_true
  rw [wholeNumber, if_neg (by simp), if_neg (by simp), if_neg exact]

end Json.Reader

end LspGateway
