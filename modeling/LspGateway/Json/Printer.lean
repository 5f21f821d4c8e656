import LspGateway.Json.Basic
import LspGateway.Decimal.Shortest

/-!
# The compact text of JSON values

No blanks are written. Strings escape the quote, the backslash and the
characters below U+0020, and nothing else. Integers are plain decimals; doubles
are the shortest decimals that read back, always with a point or an exponent.
-/

namespace LspGateway.Json

/-- Doubles are positional from 0.00001 up to sixteen digits before the point;
a nonnegative exponent carries its sign. -/
def doubleLayout : Decimal.Layout where
  lowest := -5
  highest := 15
  positiveSign := ['+']

/-- The characters of a double. Infinities and NaN have no JSON text of their
own and are written `null`. -/
def doubleChars (bits : UInt64) : List Char :=
  match Decimal.Binary.ofBits? bits with
  | none => ['n', 'u', 'l', 'l']
  | some magnitude =>
    let sign := if bits >>> 63 == 1 then ['-'] else []
    let body := if magnitude.mantissa == 0 then ['0', '.', '0']
      else magnitude.shortest.chars doubleLayout
    sign ++ body

/-- The characters of an integer. -/
def integerChars : Int → List Char
  | .ofNat n => Nat.toDigits 10 n
  | .negSucc n => '-' :: Nat.toDigits 10 (n + 1)

/-- The characters of a number. -/
def Number.chars : Number → List Char
  | .integer value => integerChars value
  | .double bits => doubleChars bits

/-- The digit of a nibble, in lower case. -/
def hexDigit (n : Nat) : Char :=
  if n < 10 then Char.ofNat (48 + n) else Char.ofNat (87 + n)

/-- One character inside a string. -/
def escapeChar (c : Char) : List Char :=
  if c == '"' then ['\\', '"']
  else if c == '\\' then ['\\', '\\']
  else if c == '\x08' then ['\\', 'b']
  else if c == '\t' then ['\\', 't']
  else if c == '\n' then ['\\', 'n']
  else if c == '\x0c' then ['\\', 'f']
  else if c == '\r' then ['\\', 'r']
  else if c.toNat < 0x20 then
    ['\\', 'u', '0', '0', hexDigit (c.toNat / 16), hexDigit (c.toNat % 16)]
  else [c]

/-- A string between quotes. -/
def stringChars (text : String) : List Char :=
  '"' :: (text.toList.flatMap escapeChar ++ ['"'])

mutual

/-- The characters of a value. -/
def chars : Json → List Char
  | .null => ['n', 'u', 'l', 'l']
  | .bool true => ['t', 'r', 'u', 'e']
  | .bool false => ['f', 'a', 'l', 's', 'e']
  | .number value => value.chars
  | .string value => stringChars value
  | .array [] => ['[', ']']
  | .array (item :: items) => '[' :: (chars item ++ itemChars items)
  | .object [] => ['\x7b', '\x7d']
  | .object ((key, value) :: members) =>
    '\x7b' :: (stringChars key ++ ':' :: (chars value ++ memberChars members))

/-- The items after the first, each behind a comma, and the closing bracket. -/
def itemChars : List Json → List Char
  | [] => [']']
  | item :: items => ',' :: (chars item ++ itemChars items)

/-- The members after the first, each behind a comma, and the closing brace. -/
def memberChars : List (String × Json) → List Char
  | [] => ['\x7d']
  | (key, value) :: members =>
    ',' :: (stringChars key ++ ':' :: (chars value ++ memberChars members))

end

/-- The compact text of a value. -/
def compact (json : Json) : String :=
  String.ofList json.chars

/-- The compact text of a value, in UTF-8. -/
def encode (json : Json) : Bytes :=
  Bytes.ofString json.compact

/-- A text that lists members in a given order instead of sorting them, for
records whose layout is part of the format. -/
def compactInOrder (members : List (String × Json)) : String :=
  String.ofList (chars (.object members))

end LspGateway.Json
