import LspGateway.Json.Basic
import LspGateway.Json.Fault

/-!
# Reading JSON texts

The reader works on the bytes that are left. A step either returns what it read
together with the rest, or stops with a cause and the bytes that were still
unread at the place to be reported; `Json.read` turns that rest into a line and
a column. Containers nest at most 127 deep.

Integers that fit 64 bits stay exact. All other numbers become doubles: the
first digits that fit 64 unsigned bits are taken as they are, the rest only
count for the power of ten, and one multiplication or division scales the
result.
-/

namespace LspGateway.Json.Reader

/-- Why and where a step stopped: the bytes from the reported place on. -/
structure Stop where
  /-- What is wrong. -/
  cause : Cause
  /-- The bytes not yet read at the reported place. -/
  unread : Bytes
  deriving DecidableEq, Repr

/-- What a step returns: its value and the bytes left, or where it stopped. -/
abbrev Step (α : Type) := Except Stop (α × Bytes)

/-- Stops right before the bytes left. -/
def stopAt {α : Type} (cause : Cause) (rest : Bytes) : Step α :=
  .error ⟨cause, rest⟩

/-- Stops behind the next byte, or at the end when there is none. -/
def stopBehind {α : Type} (cause : Cause) (rest : Bytes) : Step α :=
  .error ⟨cause, rest.drop 1⟩

/-- The blanks between the parts of a JSON text. -/
def isSpace (byte : UInt8) : Bool :=
  byte == 0x20 || byte == 0x0A || byte == 0x09 || byte == 0x0D

/-- Skips blanks. -/
def skipSpace (bytes : Bytes) : Bytes :=
  bytes.dropWhile isSpace

/-- The ASCII digits. -/
def isDigit (byte : UInt8) : Bool :=
  0x30 ≤ byte && byte ≤ 0x39

/-- The value of an ASCII digit. -/
def digitValue (byte : UInt8) : Nat :=
  byte.toNat - 0x30

/-- Expects the rest of a literal word. -/
def word (value : Json) : Bytes → Bytes → Step Json
  | [], rest => .ok (value, rest)
  | _ :: _, [] => stopAt .endInValue []
  | expected :: more, byte :: rest =>
    if byte == expected then word value more rest else stopAt .misspeltWord rest

/-! ## Numbers -/

/-- The greatest integer that digits are collected into, `2 ^ 64 - 1`. -/
def maxSignificand : Nat := 0xFFFFFFFFFFFFFFFF

/-- A run of digits: what they are worth, how many were taken into the worth,
and how many more there were once it was full. -/
structure Digits where
  /-- The digits taken, as a number. -/
  significand : Nat
  /-- How many digits were taken. -/
  taken : Nat
  /-- How many digits were only counted. -/
  dropped : Nat

/-- Reads digits into a number until the next one would not fit, then counts
the remaining ones. -/
def digits (d : Digits) : Bytes → Digits × Bytes
  | [] => (d, [])
  | byte :: rest =>
    if isDigit byte then
      if d.dropped == 0 && d.significand * 10 + digitValue byte ≤ maxSignificand then
        digits ⟨d.significand * 10 + digitValue byte, d.taken + 1, 0⟩ rest
      else digits { d with dropped := d.dropped + 1 } rest
    else (d, byte :: rest)

/-- Divides by `10 ^ 308` while the power of ten is too low for the table. -/
def scaleDown : Nat → Float → Int → Float × Int
  | 0, f, exponent => (f, exponent)
  | fuel + 1, f, exponent =>
    if exponent < -308 && !(f == 0) then scaleDown fuel (f / 1e308) (exponent + 308)
    else (f, exponent)

/-- The double nearest to what one scaling of the significand gives; `none`
beyond the greatest double. -/
def double? (negative : Bool) (significand : Nat) (exponent : Int) : Option Float :=
  let (f, exponent) := scaleDown (exponent.natAbs / 308) significand.toUInt64.toFloat exponent
  let scaled : Option Float :=
    if f == 0 then some f
    else if exponent < 0 then some (f / Float.ofScientific 1 false exponent.natAbs)
    else if 308 < exponent then none
    else
      let g := f * Float.ofScientific 1 false exponent.natAbs
      if g.isInf then none else some g
  scaled.map fun f => if negative then -f else f

/-- A double as a number, or the fault of one out of range. -/
def scaled (negative : Bool) (significand : Nat) (exponent : Int) (rest : Bytes) : Step Number :=
  match double? negative significand exponent with
  | some f => .ok (.double f.toBits, rest)
  | none => stopAt .numberOutOfRange rest

/-- Reads what follows the `e` of an exponent. Exponents beyond 32 bits give
zero or are out of range, whatever the digits that follow. -/
def exponentPart (negative : Bool) (significand : Nat) (start : Int) (bytes : Bytes) :
    Step Number :=
  let (down, bytes) := match bytes with
    | 0x2B :: rest => (false, rest)
    | 0x2D :: rest => (true, rest)
    | rest => (false, rest)
  match bytes with
  | [] => stopAt .endInValue []
  | byte :: rest =>
    if isDigit byte then collect down (digitValue byte) rest
    else stopAt .invalidNumber rest
where
  /-- Collects the digits of the exponent. -/
  collect (down : Bool) (exponent : Nat) : Bytes → Step Number
    | [] => finish down exponent []
    | byte :: rest =>
      if isDigit byte then
        let next := exponent * 10 + digitValue byte
        if next ≤ 0x7FFFFFFF then collect down next rest
        else if significand != 0 && !down then stopAt .numberOutOfRange rest
        else .ok (.double (if negative then -0.0 else 0.0 : Float).toBits, rest.dropWhile isDigit)
      else finish down exponent (byte :: rest)
  /-- Applies the exponent. -/
  finish (down : Bool) (exponent : Nat) (rest : Bytes) : Step Number :=
    scaled negative significand (if down then start - exponent else start + exponent) rest

/-- Whether a byte opens an exponent. -/
def opensExponent (byte : UInt8) : Bool :=
  byte == 0x65 || byte == 0x45

/-- Reads what follows the point of a decimal. -/
def fractionPart (negative : Bool) (significand : Nat) (start : Int) (bytes : Bytes) :
    Step Number :=
  let (d, rest) := digits ⟨significand, 0, 0⟩ bytes
  if d.taken == 0 && d.dropped == 0 then
    stopBehind (if rest.isEmpty then .endInValue else .invalidNumber) rest
  else
    let exponent := start - d.taken
    match rest with
    | byte :: after =>
      if opensExponent byte then exponentPart negative d.significand exponent after
      else scaled negative d.significand exponent rest
    | [] => scaled negative d.significand exponent []

/-- A number without point and exponent: an exact integer if it fits, negative
zero and what is below `-2 ^ 63` being doubles. -/
def wholeNumber (negative : Bool) (d : Digits) (rest : Bytes) : Step Number :=
  if d.dropped != 0 then scaled negative d.significand d.dropped rest
  else if !negative then .ok (.integer d.significand, rest)
  else if d.significand == 0 || 0x8000000000000000 < d.significand then
    .ok (.double (-d.significand.toUInt64.toFloat).toBits, rest)
  else .ok (.integer (-(d.significand : Int)), rest)

/-- Reads what may follow the digits before the point. -/
def numberTail (negative : Bool) (d : Digits) (bytes : Bytes) : Step Number :=
  match bytes with
  | [] => wholeNumber negative d []
  | byte :: rest =>
    if byte == 0x2E then fractionPart negative d.significand d.dropped rest
    else if opensExponent byte then exponentPart negative d.significand d.dropped rest
    else wholeNumber negative d bytes

/-- Reads a number after its sign. A leading zero stands alone. -/
def number (negative : Bool) : Bytes → Step Number
  | [] => stopAt .endInValue []
  | byte :: rest =>
    if byte == 0x30 then
      match rest with
      | next :: _ =>
        if isDigit next then stopBehind .invalidNumber rest
        else numberTail negative ⟨0, 1, 0⟩ rest
      | [] => numberTail negative ⟨0, 1, 0⟩ []
    else if isDigit byte then
      let (d, rest) := digits ⟨digitValue byte, 1, 0⟩ rest
      numberTail negative d rest
    else stopAt .invalidNumber rest

/-! ## Strings -/

/-- The value of a hexadecimal digit. -/
def hexValue? (byte : UInt8) : Option Nat :=
  if isDigit byte then some (byte.toNat - 0x30)
  else if 0x41 ≤ byte && byte ≤ 0x46 then some (byte.toNat - 0x37)
  else if 0x61 ≤ byte && byte ≤ 0x66 then some (byte.toNat - 0x57)
  else none

/-- Reads the four hexadecimal digits of an escape. -/
def hexEscape : Bytes → Step Nat
  | a :: b :: c :: d :: rest =>
    match hexValue? a, hexValue? b, hexValue? c, hexValue? d with
    | some a, some b, some c, some d => .ok (a * 4096 + b * 256 + c * 16 + d, rest)
    | _, _, _, _ => stopAt .invalidEscape rest
  | _ => stopAt .endInString []

/-- Reads the partner of a leading surrogate. -/
def trailingSurrogate (leading : Nat) : Bytes → Step Char
  | [] => stopAt .endInString []
  | 0x5C :: [] => stopAt .endInString []
  | 0x5C :: 0x75 :: rest =>
    match hexEscape rest with
    | .error stop => .error stop
    | .ok (trailing, rest) =>
      if 0xDC00 ≤ trailing && trailing ≤ 0xDFFF then
        .ok (Char.ofNat ((leading - 0xD800) * 1024 + (trailing - 0xDC00) + 0x10000), rest)
      else stopAt .loneSurrogate rest
  | 0x5C :: _ :: rest => stopAt .hexEscapeEnds rest
  | _ :: rest => stopAt .hexEscapeEnds rest

/-- Reads the character that an escape stands for, after its `u`. -/
def unicodeEscape (bytes : Bytes) : Step Char :=
  match hexEscape bytes with
  | .error stop => .error stop
  | .ok (unit, rest) =>
    if 0xDC00 ≤ unit && unit ≤ 0xDFFF then stopAt .loneSurrogate rest
    else if 0xD800 ≤ unit && unit ≤ 0xDBFF then trailingSurrogate unit rest
    else .ok (Char.ofNat unit, rest)

/-- Reads the character that an escape stands for, after its backslash. -/
def escape : Bytes → Step Char
  | [] => stopAt .endInString []
  | 0x22 :: rest => .ok ('"', rest)
  | 0x5C :: rest => .ok ('\\', rest)
  | 0x2F :: rest => .ok ('/', rest)
  | 0x62 :: rest => .ok ('\x08', rest)
  | 0x66 :: rest => .ok ('\x0c', rest)
  | 0x6E :: rest => .ok ('\n', rest)
  | 0x72 :: rest => .ok ('\r', rest)
  | 0x74 :: rest => .ok ('\t', rest)
  | 0x75 :: rest => unicodeEscape rest
  | _ :: rest => stopAt .invalidEscape rest

/-- The bytes of a string up to its closing quote, escapes resolved, the last
byte first. The first argument bounds the number of characters. -/
def stringBytes : Nat → Bytes → Bytes → Step Bytes
  | 0, _, bytes => stopAt .endInString bytes
  | _ + 1, _, [] => stopAt .endInString []
  | fuel + 1, read, byte :: rest =>
    if byte == 0x22 then .ok (read, rest)
    else if byte == 0x5C then
      match escape rest with
      | .error stop => .error stop
      | .ok (c, rest) => stringBytes fuel ((Bytes.ofString c.toString).reverse ++ read) rest
    else if byte < 0x20 then stopAt .controlCharacter rest
    else stringBytes fuel (byte :: read) rest

/-- Reads a string after its opening quote. A string that is not UTF-8 once its
escapes are resolved is reported at the first byte that belongs to no character,
its place being counted back from the closing quote over the resolved bytes. -/
def string (bytes : Bytes) : Step String :=
  match stringBytes (bytes.length + 1) [] bytes with
  | .error stop => .error stop
  | .ok (read, rest) =>
    match Utf8.decode read.reverse with
    | .ok text => .ok (text, rest)
    | .error fault =>
      stopAt .invalidUnicode
        (bytes.drop (bytes.length - rest.length - read.length + fault.index))

/-! ## Values -/

/-- Reads the items of an array after its bracket, given a reader for one item.
The first argument bounds the number of items. -/
def items (item : Bytes → Step Json) : Nat → List Json → Bytes → Step (List Json)
  | 0, _, bytes => stopAt .endInList bytes
  | fuel + 1, read, bytes =>
    match skipSpace bytes with
    | [] => stopAt .endInList []
    | byte :: rest =>
      if byte == 0x5D then .ok (read.reverse, rest)
      else
        match separated read.isEmpty byte rest with
        | .error stop => .error stop
        | .ok (_, start) =>
          match item start with
          | .error stop => .error stop
          | .ok (value, rest) => items item fuel (value :: read) rest
where
  /-- The place where the next item starts: here for the first one, behind a
  comma for the others. -/
  separated (first : Bool) (byte : UInt8) (rest : Bytes) : Step Unit :=
    if first then .ok ((), byte :: rest)
    else if byte == 0x2C then
      match skipSpace rest with
      | [] => stopAt .endInValue []
      | 0x5D :: after => stopAt .trailingComma after
      | start => .ok ((), start)
    else stopAt .expectedListEnd rest

/-- Reads a key, its colon and its value, from the quote of the key on. -/
def member (value : Bytes → Step Json) (bytes : Bytes) : Step (String × Json) :=
  match string (bytes.drop 1) with
  | .error stop => .error stop
  | .ok (key, rest) =>
    match skipSpace rest with
    | [] => stopAt .endInObject []
    | byte :: rest =>
      if byte == 0x3A then
        match value rest with
        | .error stop => .error stop
        | .ok (json, rest) => .ok ((key, json), rest)
      else stopAt .expectedColon rest

/-- Reads the members of an object after its brace, given a reader for one
value. The first argument bounds the number of members. -/
def members (value : Bytes → Step Json) :
    Nat → Bool → Members → Bytes → Step Members
  | 0, _, _, bytes => stopAt .endInObject bytes
  | fuel + 1, first, read, bytes =>
    match skipSpace bytes with
    | [] => stopAt .endInObject []
    | byte :: rest =>
      if byte == 0x7D then .ok (read, rest)
      else
        match separated first byte rest with
        | .error stop => .error stop
        | .ok (_, start) =>
          match member value start with
          | .error stop => .error stop
          | .ok ((key, json), rest) => members value fuel false (read.insert key json) rest
where
  /-- The place where the next key starts. -/
  separated (first : Bool) (byte : UInt8) (rest : Bytes) : Step Unit :=
    if first then
      if byte == 0x22 then .ok ((), byte :: rest) else stopAt .keyNotString rest
    else if byte == 0x2C then
      match skipSpace rest with
      | [] => stopAt .endInValue []
      | 0x22 :: after => .ok ((), 0x22 :: after)
      | 0x7D :: after => stopAt .trailingComma after
      | _ :: after => stopAt .keyNotString after
    else stopAt .expectedObjectEnd rest

/-- Reads a value, at most `depth` containers inside each other. -/
def value : Nat → Bytes → Step Json
  | depth, bytes =>
    match skipSpace bytes with
    | [] => stopAt .endInValue []
    | 0x6E :: rest => word .null [0x75, 0x6C, 0x6C] rest
    | 0x74 :: rest => word (.bool true) [0x72, 0x75, 0x65] rest
    | 0x66 :: rest => word (.bool false) [0x61, 0x6C, 0x73, 0x65] rest
    | 0x2D :: rest => (number true rest).map fun (n, rest) => (.number n, rest)
    | 0x22 :: rest => (string rest).map fun (text, rest) => (.string text, rest)
    | 0x5B :: rest =>
      match depth with
      | 0 => stopAt .nestedTooDeeply rest
      | depth + 1 =>
        (items (value depth) (rest.length + 1) [] rest).map fun (list, rest) => (.array list, rest)
    | 0x7B :: rest =>
      match depth with
      | 0 => stopAt .nestedTooDeeply rest
      | depth + 1 =>
        (members (value depth) (rest.length + 1) true [] rest).map fun (list, rest) =>
          (.object list, rest)
    | byte :: rest =>
      if isDigit byte then (number false (byte :: rest)).map fun (n, rest) => (.number n, rest)
      else stopAt .expectedValue rest

/-- How many containers may stand inside each other. -/
def maxDepth : Nat := 127

/-- The place of a stop in the text it arose in. -/
def Stop.fault (stop : Stop) (text : Bytes) : Fault :=
  ⟨stop.cause, Position.after (text.take (text.length - stop.unread.length))⟩

/-- Demands that only blanks are left. -/
def atEnd {α : Type} (result : α × Bytes) : Except Stop α :=
  match skipSpace result.2 with
  | [] => .ok result.1
  | _ :: rest => .error ⟨.trailingCharacters, rest⟩

end Reader

/-- Reads a text that holds exactly one value. -/
def read (text : Bytes) : Except Fault Json :=
  match Reader.value Reader.maxDepth text with
  | .error stop => .error (stop.fault text)
  | .ok result =>
    match Reader.atEnd result with
    | .error stop => .error (stop.fault text)
    | .ok json => .ok json

end LspGateway.Json
