import LspGateway.Text.Utf8

/-!
# Faults of JSON texts

A fault is a cause together with the place where reading stopped. Places are
counted in lines from one and in bytes read of the current line, the offending
byte counting as read where it was taken.
-/

namespace LspGateway.Json

/-- What is wrong with a text that is no JSON. -/
inductive Cause where
  /-- The text ends where a value is expected, or inside one. -/
  | endInValue
  /-- The text ends inside an array. -/
  | endInList
  /-- The text ends inside an object. -/
  | endInObject
  /-- The text ends inside a string. -/
  | endInString
  /-- A literal word is misspelt. -/
  | misspeltWord
  /-- No value starts here. -/
  | expectedValue
  /-- A key is not followed by a colon. -/
  | expectedColon
  /-- An item is followed by neither a comma nor the closing bracket. -/
  | expectedListEnd
  /-- A member is followed by neither a comma nor the closing brace. -/
  | expectedObjectEnd
  /-- A key is not a string. -/
  | keyNotString
  /-- A comma stands before a closing bracket or brace. -/
  | trailingComma
  /-- Something follows the value. -/
  | trailingCharacters
  /-- The digits of a number are malformed. -/
  | invalidNumber
  /-- A number is beyond the greatest double. -/
  | numberOutOfRange
  /-- A control character stands unescaped in a string. -/
  | controlCharacter
  /-- A backslash is followed by no known letter, or by bad hex digits. -/
  | invalidEscape
  /-- A leading surrogate is followed by no escape. -/
  | hexEscapeEnds
  /-- A surrogate lacks its partner. -/
  | loneSurrogate
  /-- A string is not UTF-8. -/
  | invalidUnicode
  /-- Containers are nested too deeply. -/
  | nestedTooDeeply
  deriving DecidableEq, Repr

/-- The wording of a cause. -/
def Cause.message : Cause → String
  | .endInValue => "EOF while parsing a value"
  | .endInList => "EOF while parsing a list"
  | .endInObject => "EOF while parsing an object"
  | .endInString => "EOF while parsing a string"
  | .misspeltWord => "expected ident"
  | .expectedValue => "expected value"
  | .expectedColon => "expected `:`"
  | .expectedListEnd => "expected `,` or `]`"
  | .expectedObjectEnd => "expected `,` or `\x7d`"
  | .keyNotString => "key must be a string"
  | .trailingComma => "trailing comma"
  | .trailingCharacters => "trailing characters"
  | .invalidNumber => "invalid number"
  | .numberOutOfRange => "number out of range"
  | .controlCharacter => "control character (\\u0000-\\u001F) found while parsing a string"
  | .invalidEscape => "invalid escape"
  | .hexEscapeEnds => "unexpected end of hex escape"
  | .loneSurrogate => "lone leading surrogate in hex escape"
  | .invalidUnicode => "invalid unicode code point"
  | .nestedTooDeeply => "recursion limit exceeded"

/-- A place in a text. -/
structure Position where
  /-- The line, counted from one. -/
  line : Nat
  /-- The number of bytes read in that line. -/
  column : Nat
  deriving DecidableEq, Repr

/-- The place reached when `read` has been read. -/
def Position.after (read : Bytes) : Position :=
  { line := read.count 0x0A + 1
    column := (read.reverse.takeWhile (· != 0x0A)).length }

/-- The suffix that tells a place. -/
def Position.suffix (position : Position) : String :=
  s!" at line {position.line} column {position.column}"

/-- A fault at a place. -/
structure Fault where
  /-- What is wrong. -/
  cause : Cause
  /-- Where reading stopped. -/
  position : Position
  deriving DecidableEq, Repr

/-- The wording of a fault. -/
def Fault.message (fault : Fault) : String :=
  fault.cause.message ++ fault.position.suffix

/-- Nothing read is the start of the first line. -/
theorem Position.after_nil : Position.after [] = ⟨1, 0⟩ := rfl

end LspGateway.Json
