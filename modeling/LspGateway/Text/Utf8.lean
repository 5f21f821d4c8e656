/-!
# UTF-8 text inside byte streams

Byte strings are plain lists of bytes, so that framing and parsing can be
stated by append and take. A byte string that should be text is decoded as a
whole; when it is not UTF-8, the fault names the first offending sequence and
whether the input stopped in the middle of it.
-/

namespace LspGateway

/-- A string of raw bytes, in stream order. -/
abbrev Bytes := List UInt8

namespace Bytes

/-- The UTF-8 encoding of a text. -/
def ofString (text : String) : Bytes :=
  text.toUTF8.toList

/-- The bytes as a packed array, the form in which they leave the program. -/
def toByteArray (bytes : Bytes) : ByteArray :=
  ⟨bytes.toArray⟩

end Bytes

namespace Utf8

/-- Why a byte string is not UTF-8. -/
inductive Fault where
  /-- The sequence of `length` bytes at `index` can never be completed. -/
  | malformed (index length : Nat)
  /-- The input ends inside the sequence that starts at `index`. -/
  | unfinished (index : Nat)
  deriving DecidableEq, Repr

/-- The index of the first byte that belongs to no complete character. -/
def Fault.index : Fault → Nat
  | .malformed index _ => index
  | .unfinished index => index

/-- The wording of a fault. -/
def Fault.message : Fault → String
  | .malformed index length => s!"invalid utf-8 sequence of {length} bytes from index {index}"
  | .unfinished index => s!"incomplete utf-8 byte sequence from index {index}"

/-- Continuation bytes run from 0x80 to 0xBF. -/
def isContinuation (byte : UInt8) : Bool :=
  0x80 ≤ byte && byte ≤ 0xBF

/-- The second bytes admitted after a lead byte, and how many bytes follow in
all. The narrowed ranges exclude overlong forms, surrogates and values past
0x10FFFF; `none` means that the byte starts no multi-byte character. -/
def lead? (byte : UInt8) : Option (UInt8 × UInt8 × Nat) :=
  if 0xC2 ≤ byte && byte ≤ 0xDF then some (0x80, 0xBF, 1)
  else if byte == 0xE0 then some (0xA0, 0xBF, 2)
  else if byte == 0xED then some (0x80, 0x9F, 2)
  else if 0xE1 ≤ byte && byte ≤ 0xEF then some (0x80, 0xBF, 2)
  else if byte == 0xF0 then some (0x90, 0xBF, 3)
  else if 0xF1 ≤ byte && byte ≤ 0xF3 then some (0x80, 0xBF, 3)
  else if byte == 0xF4 then some (0x80, 0x8F, 3)
  else none

/-- Where the scan stands: between characters, or inside one. -/
inductive Scan where
  /-- The next byte starts a character. -/
  | boundary
  /-- Inside the character that began at `start`: the next byte has to lie
  between `low` and `high`, and `more` continuation bytes follow it. -/
  | inside (start : Nat) (low high : UInt8) (more : Nat)

/-- The first fault of a byte string read from `index` on, if there is one. -/
def faultFrom (index : Nat) : Scan → Bytes → Option Fault
  | .boundary, [] => none
  | .inside start _ _ _, [] => some (.unfinished start)
  | .boundary, byte :: rest =>
    if byte < 0x80 then faultFrom (index + 1) .boundary rest
    else match lead? byte with
      | none => some (.malformed index 1)
      | some (low, high, following) =>
        faultFrom (index + 1) (.inside index low high (following - 1)) rest
  | .inside start low high more, byte :: rest =>
    if low ≤ byte && byte ≤ high then
      match more with
      | 0 => faultFrom (index + 1) .boundary rest
      | more + 1 => faultFrom (index + 1) (.inside start 0x80 0xBF more) rest
    else some (.malformed start (index - start))

/-- The first fault of a byte string, `none` when it is UTF-8. -/
def fault? (bytes : Bytes) : Option Fault :=
  faultFrom 0 .boundary bytes

/-- The text that the bytes encode, or the first fault. -/
def decode (bytes : Bytes) : Except Fault String :=
  match String.fromUTF8? bytes.toByteArray with
  | some text => .ok text
  | none => .error ((fault? bytes).getD (.unfinished bytes.length))

end Utf8

end LspGateway
