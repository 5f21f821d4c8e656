import LspGateway.Text.Blank
import LspGateway.Text.Unsigned
import LspGateway.Text.Utf8
import Mathlib.Data.List.DropRight

/-!
# Reading texts

A byte string decodes to a text exactly if it is the encoding of that text, and the
encoding of a text that is ASCII has one byte for each character. Trimming a text drops
nothing but blanks, so what stands around a separator that is no blank may be trimmed
before or after it is cut apart. An unsigned number is read exactly of a numeral for it.
-/

namespace LspGateway

namespace Bytes

/-- A packed array is unpacked byte by byte. -/
theorem toList_packed (array : ByteArray) : array.toList = array.data.toList := by
  have loop (index : Nat) (read : List UInt8) :
      ByteArray.toList.loop array index read = read.reverse ++ array.data.toList.drop index := by
    induction index, read using ByteArray.toList.loop.induct array with
    | case1 index read more ih =>
      have hlt : index < array.data.toList.length := by simpa using more
      rw [ByteArray.toList.loop, if_pos more, ih, List.drop_eq_getElem_cons hlt]
      simp [ByteArray.get!, more]
    | case2 index read done =>
      have hle : array.data.toList.length ≤ index := by simpa using done
      rw [ByteArray.toList.loop, if_neg done, List.drop_of_length_le hle, List.append_nil]
  exact loop 0 []

/-- Unpacking takes the packing back. -/
theorem toByteArray_toList (array : ByteArray) : toByteArray array.toList = array := by
  simp [toByteArray, toList_packed]

/-- Packing takes the unpacking back. -/
theorem toList_toByteArray (bytes : Bytes) : bytes.toByteArray.toList = bytes := by
  simp [toByteArray, toList_packed]

/-- Texts are encoded one after the other. -/
theorem ofString_append (first second : String) :
    ofString (first ++ second) = ofString first ++ ofString second := by
  simp [ofString, toList_packed]

/-- Whether characters are ASCII can be looked up. -/
theorem ascii_of_all {chars : List Char} (all : chars.all (·.val ≤ 127) = true) :
    ∀ c ∈ chars, c.val ≤ 127 :=
  fun c hc => of_decide_eq_true (List.all_eq_true.mp all c hc)

/-- A text that is ASCII is encoded character by character. -/
theorem ofString_ofList_of_ascii {chars : List Char} (ascii : ∀ c ∈ chars, c.val ≤ 127) :
    ofString (String.ofList chars) = chars.map Char.toUInt8 := by
  induction chars with
  | nil => simp [ofString, toList_packed]
  | cons c rest ih =>
    have one : String.utf8EncodeChar c = [c.toUInt8] :=
      String.utf8EncodeChar_eq_singleton (Char.utf8Size_eq_one_iff.mpr (ascii c List.mem_cons_self))
    have first : ofString (String.ofList [c]) = [c.toUInt8] := by
      simp [ofString, toList_packed, List.utf8Encode_singleton, one]
    rw [List.map_cons, ← ih fun d hd => ascii d (List.mem_cons_of_mem c hd),
      ← List.singleton_append, String.ofList_append, ofString_append, first]
    rfl

end Bytes

/-- Bytes decode to a text exactly if they are its encoding. -/
theorem Utf8.decode_eq_ok_iff {bytes : Bytes} {text : String} :
    decode bytes = .ok text ↔ bytes = Bytes.ofString text := by
  unfold decode String.fromUTF8?
  by_cases valid : bytes.toByteArray.IsValidUTF8
  · rw [dif_pos valid]
    simp only [Except.ok.injEq]
    constructor
    · rintro rfl
      exact (Bytes.toList_toByteArray bytes).symm
    · rintro rfl
      refine String.toByteArray_inj.mp ?_
      exact Bytes.toByteArray_toList text.toByteArray
  · rw [dif_neg valid]
    simp only [reduceCtorEq, false_iff]
    rintro rfl
    rw [Bytes.ofString, Bytes.toByteArray_toList] at valid
    exact valid text.isValidUTF8

/-- Texts are told apart by their encodings. -/
theorem Bytes.ofString_injective : Function.Injective ofString := by
  intro first second same
  have decoded := Utf8.decode_eq_ok_iff.mpr same
  rw [Utf8.decode_eq_ok_iff.mpr rfl] at decoded
  exact Except.ok.inj decoded

namespace Text

/-! ## Trimming -/

/-- Nothing is left exactly of blanks. -/
theorem trimChars_eq_nil_iff {chars : List Char} :
    trimChars chars = [] ↔ ∀ c ∈ chars, isBlank c = true := by
  change (chars.dropWhile isBlank).rdropWhile isBlank = [] ↔ _
  rw [List.rdropWhile_eq_nil_iff]
  constructor
  · intro dropped c hc
    rw [← List.takeWhile_append_dropWhile (p := isBlank) (l := chars), List.mem_append] at hc
    exact hc.elim List.mem_takeWhile_imp (dropped c)
  · intro blank c hc
    exact blank c ((List.dropWhile_sublist isBlank).subset hc)

/-- A text is empty when trimmed if all of it is blank. -/
theorem trim_isEmpty_iff {text : String} :
    (trim text).isEmpty = true ↔ ∀ c ∈ text.toList, isBlank c = true := by
  rw [String.isEmpty_iff, trim, ← trimChars_eq_nil_iff, ← String.toList_inj]
  simp

/-- Trimming only drops characters. -/
theorem trimChars_sublist (chars : List Char) : (trimChars chars).Sublist chars :=
  (List.rdropWhile_prefix isBlank _).sublist.trans (List.dropWhile_sublist isBlank)

/-- A blank at the end does not matter. -/
theorem trimChars_concat (chars : List Char) {c : Char} (blank : isBlank c = true) :
    trimChars (chars ++ [c]) = trimChars chars := by
  change ((chars ++ [c]).dropWhile isBlank).rdropWhile isBlank =
    (chars.dropWhile isBlank).rdropWhile isBlank
  rw [List.dropWhile_append]
  split
  · next all =>
    rw [List.isEmpty_iff.mp all, List.dropWhile_cons_of_pos blank]
    rfl
  · exact List.rdropWhile_concat_pos isBlank _ c blank

/-- Blanks dropped at the end do not matter. -/
theorem trimChars_rdropWhile (chars : List Char) :
    trimChars (chars.rdropWhile isBlank) = trimChars chars := by
  induction chars using List.reverseRecOn with
  | nil => rfl
  | append_singleton rest c ih =>
    by_cases blank : isBlank c = true
    · rw [List.rdropWhile_concat_pos isBlank rest c blank, ih, trimChars_concat rest blank]
    · rw [List.rdropWhile_concat_neg isBlank rest c blank]

/-- Blanks dropped at the beginning do not matter. -/
theorem trimChars_dropWhile (chars : List Char) :
    trimChars (chars.dropWhile isBlank) = trimChars chars := by
  unfold trimChars
  rw [List.dropWhile_idempotent]

/-- Nor do blanks after all the rest. -/
theorem trimChars_append_blanks (chars : List Char) {blanks : List Char}
    (blank : ∀ c ∈ blanks, isBlank c = true) : trimChars (chars ++ blanks) = trimChars chars := by
  induction blanks using List.reverseRecOn with
  | nil => rw [List.append_nil]
  | append_singleton rest c ih =>
    rw [← List.append_assoc, trimChars_concat _ (blank c (by simp)),
      ih fun d hd => blank d (List.mem_append_left _ hd)]

/-- Where there is no blank, nothing is dropped. -/
theorem trimChars_eq_self {chars : List Char} (dark : ∀ c ∈ chars, isBlank c = false) :
    trimChars chars = chars := by
  have front : chars.dropWhile isBlank = chars := by
    rw [List.dropWhile_eq_self_iff]
    intro filled
    simp [dark _ (List.getElem_mem filled)]
  change (chars.dropWhile isBlank).rdropWhile isBlank = chars
  rw [front, List.rdropWhile_eq_self_iff]
  intro filled
  simp [dark _ (List.getLast_mem filled)]

/-- Around a character that is no blank, only what is at the far ends is trimmed. -/
theorem trimChars_around {c : Char} (mark : isBlank c = false) (before after : List Char) :
    trimChars (before ++ c :: after) =
      before.dropWhile isBlank ++ c :: after.rdropWhile isBlank := by
  have front : (before ++ c :: after).dropWhile isBlank =
      before.dropWhile isBlank ++ c :: after := by
    rw [List.dropWhile_append, List.dropWhile_cons_of_neg (by simp [mark])]
    split
    · next all => rw [List.isEmpty_iff.mp all, List.nil_append]
    · rfl
  unfold trimChars
  rw [front, List.reverse_append, List.reverse_cons, List.append_assoc, List.singleton_append,
    List.dropWhile_append, List.dropWhile_cons_of_neg (by simp [mark])]
  split
  · next all =>
    have none : after.rdropWhile isBlank = [] := by
      unfold List.rdropWhile
      rw [List.isEmpty_iff.mp all, List.reverse_nil]
    simp [none]
  · simp [List.rdropWhile]

/-! ## Numerals -/

/-- A numeral for a number of 64 bits: decimal digits, perhaps behind a plus sign. -/
def IsNumeral (chars : List Char) (n : Nat) : Prop :=
  ∃ digits, (chars = digits ∨ chars = '+' :: digits) ∧ digits ≠ [] ∧
    (∀ c ∈ digits, c.isDigit = true) ∧ Nat.ofDigitChars 10 digits 0 = n ∧ n ≤ maxWord

/-- Further digits make a number no smaller. -/
theorem le_ofDigitChars (digits : List Char) (value : Nat) :
    value ≤ Nat.ofDigitChars 10 digits value := by
  have power : 0 < 10 ^ digits.length := Nat.pow_pos (by decide)
  calc value ≤ 10 ^ digits.length * value := Nat.le_mul_of_pos_left value power
    _ ≤ 10 ^ digits.length * value + Nat.ofDigitChars 10 digits 0 := Nat.le_add_right _ _
    _ = Nat.ofDigitChars 10 digits value := Nat.ofDigitChars_eq_ofDigitChars_zero.symm

/-- Digits are read to the number that they stand for, as long as it is within the bound. -/
theorem readDigits_eq_ok_iff {max value n : Nat} {digits : List Char} (within : value ≤ max) :
    readDigits max value digits = .ok n ↔
      (∀ c ∈ digits, c.isDigit = true) ∧ Nat.ofDigitChars 10 digits value = n ∧ n ≤ max := by
  induction digits generalizing value with
  | nil =>
    simp only [readDigits, Except.ok.injEq, List.not_mem_nil, false_imp_iff, implies_true,
      Nat.ofDigitChars_nil, true_and]
    constructor
    · rintro rfl
      exact ⟨rfl, within⟩
    · exact And.left
  | cons c rest ih =>
    have step : Nat.ofDigitChars 10 (c :: rest) value =
        Nat.ofDigitChars 10 rest (value * 10 + (c.toNat - '0'.toNat)) := by
      rw [Nat.ofDigitChars_cons, Nat.mul_comm]
    simp only [readDigits, List.forall_mem_cons, step]
    by_cases digit : c.isDigit = true
    · simp only [digit, Bool.not_true, Bool.false_eq_true, if_false, true_and]
      split
      · next above =>
        have grows := le_ofDigitChars rest (value * 10 + (c.toNat - '0'.toNat))
        simp only [reduceCtorEq, false_iff]
        rintro ⟨-, rfl, bounded⟩
        omega
      · next below => exact ih (by omega)
    · simp [digit]

/-- Behind a plus sign a numeral has its digits. -/
theorem isNumeral_plus_iff {digits : List Char} {n : Nat} :
    IsNumeral ('+' :: digits) n ↔ digits ≠ [] ∧
      (∀ c ∈ digits, c.isDigit = true) ∧ Nat.ofDigitChars 10 digits 0 = n ∧ n ≤ maxWord := by
  constructor
  · rintro ⟨chars, rfl | hsigned, some, all, value⟩
    · exact absurd (all '+' List.mem_cons_self) (by decide)
    · rw [List.tail_eq_of_cons_eq hsigned]
      exact ⟨some, all, value⟩
  · exact fun h => ⟨digits, .inr rfl, h⟩

/-- Without a plus sign a numeral is its digits. -/
theorem isNumeral_iff_of_unsigned {chars : List Char} {n : Nat}
    (unsigned : ∀ rest, chars ≠ '+' :: rest) :
    IsNumeral chars n ↔ chars ≠ [] ∧
      (∀ c ∈ chars, c.isDigit = true) ∧ Nat.ofDigitChars 10 chars 0 = n ∧ n ≤ maxWord := by
  constructor
  · rintro ⟨digits, rfl | hsigned, value⟩
    · exact value
    · exact absurd hsigned (unsigned digits)
  · exact fun h => ⟨chars, .inl rfl, h⟩

/-- A length is read exactly of a numeral. -/
theorem readUnsigned_eq_ok_iff {text : String} {n : Nat} :
    readUnsigned maxWord text = .ok n ↔ IsNumeral text.toList n := by
  have within := Nat.zero_le maxWord
  unfold readUnsigned
  split
  · next none =>
    rw [none, isNumeral_iff_of_unsigned (by simp)]
    simp
  · next sign =>
    rw [sign, isNumeral_plus_iff]
    simp
  · next digits bare signed =>
    rw [signed, isNumeral_plus_iff, readDigits_eq_ok_iff within]
    exact (and_iff_right bare).symm
  · next chars filled bare unsigned =>
    rw [isNumeral_iff_of_unsigned unsigned, readDigits_eq_ok_iff within]
    exact (and_iff_right filled).symm

end Text

end LspGateway
