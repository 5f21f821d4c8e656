import LspGateway.Decimal.Reader
import LspGateway.Json.Basic
import LspGateway.Toml.Fault

/-!
# Scalars

Strings in their four forms, numbers, truth values and points in time, as they
stand in a document. Every reader takes the characters from its first one on and
yields what it has read and what is left, or a fault.
-/

namespace LspGateway.Toml

/-- Whether a character may not stand in a text: the control characters apart from
the tab. -/
def isControl (c : Char) : Bool :=
  (c.toNat < 0x20 && c != '\t') || c.toNat == 0x7F

/-- Whether a character separates words on a line. -/
def isGap (c : Char) : Bool := c == ' ' || c == '\t'

/-- Reads the end of a line. -/
def newline? : List Char → Option (List Char)
  | '\n' :: rest | '\r' :: '\n' :: rest => some rest
  | _ => none

/-! ## Strings -/

/-- The value of a hexadecimal digit. -/
def hexDigit? (c : Char) : Option Nat :=
  if c.isDigit then some (c.toNat - '0'.toNat)
  else if 'a' ≤ c && c ≤ 'f' then some (c.toNat - 'a'.toNat + 10)
  else if 'A' ≤ c && c ≤ 'F' then some (c.toNat - 'A'.toNat + 10)
  else none

/-- Reads a character given by so many hexadecimal digits. -/
def codePoint (digits : Nat) (chars : List Char) : Step Char :=
  let text := chars.take digits
  if text.length < digits then malformed chars
  else match text.mapM hexDigit? with
    | none => malformed chars
    | some values =>
      let code := values.foldl (fun code value => code * 16 + value) 0
      if code.isValidChar then .ok (Char.ofNat code, chars.drop digits) else malformed chars

/-- Reads the character that an escape stands for, after its backslash. -/
def escape (edition : Edition) : List Char → Step Char
  | 'b' :: rest => .ok ('\x08', rest)
  | 't' :: rest => .ok ('\t', rest)
  | 'n' :: rest => .ok ('\n', rest)
  | 'f' :: rest => .ok ('\x0c', rest)
  | 'r' :: rest => .ok ('\r', rest)
  | '"' :: rest => .ok ('"', rest)
  | '\\' :: rest => .ok ('\\', rest)
  | 'u' :: rest => codePoint 4 rest
  | 'U' :: rest => codePoint 8 rest
  | 'e' :: rest => if edition.isNewer then .ok ('\x1b', rest) else .error ⟨.escape, rest⟩
  | 'x' :: rest => if edition.isNewer then codePoint 2 rest else .error ⟨.escape, rest⟩
  | chars => malformed chars

/-- Reads a string on one line after its opening quote, with escapes. The first
argument bounds the number of characters. -/
def basicString (edition : Edition) :
    Nat → List Char → List Char → Except Fault (String × List Char)
  | 0, _, chars => malformed chars
  | _, _, [] => malformed []
  | fuel + 1, read, c :: rest =>
    if c == '"' then .ok (String.ofList read.reverse, rest)
    else if c == '\\' then do
      let (c, rest) ← escape edition rest
      basicString edition fuel (c :: read) rest
    else if isControl c then malformed (c :: rest)
    else basicString edition fuel (c :: read) rest

/-- Reads a string on one line after its opening quote, as it stands. -/
def literalString (chars : List Char) : Step String :=
  let body := chars.takeWhile fun c => c != '\x27' && !isControl c
  match chars.drop body.length with
  | '\x27' :: rest => .ok (String.ofList body, rest)
  | rest => malformed rest

/-- Whether the quotes at the start of a text end a string of several lines; a text
may end in two quotes of its own. Yields how many belong to the text. -/
def closingQuotes? (quote : Char) (chars : List Char) : Option Nat :=
  let quotes := (chars.takeWhile (· == quote)).length
  if 3 ≤ quotes then some (min quotes 5 - 3) else none

/-- Leaves out blanks and ends of lines. -/
def skipBreaks : List Char → List Char
  | '\r' :: '\n' :: rest => skipBreaks rest
  | c :: rest => if isGap c || c == '\n' then skipBreaks rest else c :: rest
  | [] => []

/-- Reads what a backslash at the end of a line swallows: blanks and ends of lines up
to the next character, at least one end of a line. -/
def lineContinuation? (chars : List Char) : Option (List Char) :=
  (newline? (chars.dropWhile isGap)).map skipBreaks

/-- Reads a string of several lines after its opening quotes, with escapes if they
are double. The first argument bounds the number of characters. -/
def longString (edition : Edition) (quote : Char) :
    Nat → List Char → List Char → Except Fault (String × List Char)
  | 0, _, chars => malformed chars
  | _, _, [] => malformed []
  | fuel + 1, read, c :: rest =>
    match closingQuotes? quote (c :: rest) with
    | some kept =>
      .ok (String.ofList (read.reverse ++ List.replicate kept quote), (c :: rest).drop (kept + 3))
    | none =>
      if c == '\\' && quote == '"' then
        match lineContinuation? rest with
        | some rest => longString edition quote fuel read rest
        | none => do
          let (c, rest) ← escape edition rest
          longString edition quote fuel (c :: read) rest
      else match newline? (c :: rest) with
        | some rest => longString edition quote fuel ('\n' :: read) rest
        | none =>
          if isControl c then malformed (c :: rest)
          else longString edition quote fuel (c :: read) rest

/-- Leaves out the end of a line directly after the opening quotes. -/
def afterOpening (chars : List Char) : List Char :=
  (newline? chars).getD chars

/-- Reads a string from its quote on. -/
def string (edition : Edition) : List Char → Step String
  | '"' :: '"' :: '"' :: rest =>
    longString edition '"' (rest.length + 1) [] (afterOpening rest)
  | '\x27' :: '\x27' :: '\x27' :: rest =>
    longString edition '\x27' (rest.length + 1) [] (afterOpening rest)
  | '"' :: rest => basicString edition (rest.length + 1) [] rest
  | '\x27' :: rest => literalString rest
  | chars => malformed chars

/-! ## Points in time -/

/-- Reads a number of so many digits within bounds. -/
def fixedNumber (digits least most : Nat) (chars : List Char) : Step Nat :=
  let text := chars.take digits
  let value := Decimal.Fraction.digitsValue 0 text
  if text.length == digits && text.all Char.isDigit && least ≤ value && value ≤ most then
    .ok (value, chars.drop digits)
  else malformed chars

/-- Reads a character that has to stand here. -/
def expect (c : Char) : List Char → Except Fault (List Char)
  | first :: rest => if first == c then .ok rest else malformed (first :: rest)
  | [] => malformed []

/-- How many days a month has. -/
def daysIn (year month : Nat) : Nat :=
  if month == 2 then
    if year % 4 == 0 && (year % 100 != 0 || year % 400 == 0) then 29 else 28
  else if month == 4 || month == 6 || month == 9 || month == 11 then 30 else 31

/-- Reads a date. -/
def date (chars : List Char) : Except Fault (List Char) := do
  let (year, rest) ← fixedNumber 4 0 9999 chars
  let rest ← expect '-' rest
  let (month, rest) ← fixedNumber 2 1 12 rest
  let rest ← expect '-' rest
  let (_, rest) ← fixedNumber 2 1 (daysIn year month) rest
  return rest

/-- Reads the part of a second, if there is one. -/
def secondFraction : List Char → Except Fault (List Char)
  | '.' :: rest =>
    if rest.head?.any Char.isDigit then .ok (rest.dropWhile Char.isDigit) else malformed rest
  | rest => .ok rest

/-- Reads a time of the day. The cause given is that of a time without seconds, which
only the newer edition admits. -/
def time (edition : Edition) (cause : Cause) (chars : List Char) :
    Except Fault (List Char) := do
  let (_, rest) ← fixedNumber 2 0 23 chars
  let rest ← expect ':' rest
  let (_, rest) ← fixedNumber 2 0 59 rest
  match rest with
  | ':' :: rest => do
    let (_, rest) ← fixedNumber 2 0 60 rest
    secondFraction rest
  | rest => if edition.isNewer then return rest else .error ⟨cause, rest⟩

/-- Reads the distance from universal time, if there is one. -/
def offset : List Char → Except Fault (List Char)
  | 'Z' :: rest | 'z' :: rest => .ok rest
  | '+' :: rest | '-' :: rest => do
    let (_, rest) ← fixedNumber 2 0 23 rest
    let rest ← expect ':' rest
    let (_, rest) ← fixedNumber 2 0 59 rest
    return rest
  | rest => .ok rest

/-- Reads a date, and the time after it, if there is one. -/
def dateTime (edition : Edition) (chars : List Char) : Except Fault (List Char) := do
  let rest ← date chars
  match rest with
  | 'T' :: after | 't' :: after => offset (← time edition .dateTime after)
  | ' ' :: after =>
    if after.head?.any Char.isDigit then offset (← time edition .dateTime after)
    else return rest
  | _ => return rest

/-- The key under which the text of a point in time stands. -/
def timeKey : String := "$__toml_private_datetime"

/-- Whether the digits at the start are those of a year. -/
def opensDate (chars : List Char) : Bool :=
  (chars.takeWhile Char.isDigit).length == 4 &&
    (chars.dropWhile Char.isDigit).head? == some '-'

/-- Whether the digits at the start are those of an hour. -/
def opensTime (chars : List Char) : Bool :=
  (chars.takeWhile Char.isDigit).length == 2 &&
    (chars.dropWhile Char.isDigit).head? == some ':'

/-- The point in time that has been read when so much is left. -/
def moment (chars rest : List Char) : Json × List Char :=
  (.ofPairs [(timeKey, .string (String.ofList (chars.take (chars.length - rest.length))))], rest)

/-! ## Numbers and words -/

/-- Whether a text is made of digits of a kind, single underscores standing between
them. -/
def areDigits (isDigit : Char → Bool) (chars : List Char) : Bool :=
  let ends := chars.head?.any isDigit && chars.getLast?.any isDigit
  let apart := (chars.zip (chars.drop 1)).all fun (a, b) => a != '_' || b != '_'
  ends && apart && chars.all fun c => isDigit c || c == '_'

/-- The number that digits to a base stand for, underscores left out. -/
def digitsTo (base : Nat) (chars : List Char) : Nat :=
  (chars.filterMap hexDigit?).foldl (fun value digit => value * base + digit) 0

/-- The integer of a number, if it has 64 bits. -/
def integer? (value : Int) : Option Json :=
  if -0x8000000000000000 ≤ value ∧ value < 0x8000000000000000 then some (.ofInt value) else none

/-- The number as a value; what is not finite has none. -/
def ofFloat? (value : Float) : Option Json :=
  if value.isFinite then some (.number (.double value.toBits)) else none

/-- Whether digits are written without superfluous zeros in front. -/
def isPlain (chars : List Char) : Bool :=
  match chars with
  | '0' :: _ :: _ => false
  | _ => true

/-- Whether a character may stand among digits. -/
def isSpacedDigit (c : Char) : Bool := c.isDigit || c == '_'

/-- The number that a word with a decimal point or an exponent stands for. -/
def float? (negative : Bool) (chars : List Char) : Option Json :=
  let whole := chars.takeWhile isSpacedDigit
  let (fraction, rest) := match chars.dropWhile isSpacedDigit with
    | '.' :: rest => (some (rest.takeWhile isSpacedDigit), rest.dropWhile isSpacedDigit)
    | rest => (none, rest)
  let exponent := match rest with
    | c :: rest => if c == 'e' || c == 'E' then some (Decimal.Fraction.readSign rest).2 else some []
    | [] => none
  let sound := areDigits Char.isDigit whole && isPlain whole &&
    fraction.all (areDigits Char.isDigit) && exponent.all (areDigits Char.isDigit)
  if !sound then none
  else (Decimal.Fraction.read? (String.ofList (chars.filter (· != '_')))).bind fun number =>
    ofFloat? (Decimal.Fraction.toFloat { number with negative := negative })

/-- The number that a word without a sign stands for. What is not finite has no value
but `null`, and has to be written by its name. -/
def unsigned? (negative : Bool) (chars : List Char) : Option Json :=
  if chars == ['i', 'n', 'f'] || chars == ['n', 'a', 'n'] then some .null
  else if areDigits Char.isDigit chars then
    let value : Int := digitsTo 10 chars
    if isPlain chars then integer? (if negative then -value else value) else none
  else float? negative chars

/-- The number that a word to another base stands for. -/
def based? (base : Nat) (chars : List Char) : Option Json :=
  if areDigits (fun c => (hexDigit? c).any (· < base)) chars then integer? (digitsTo base chars)
  else none

/-- The value that a word stands for. -/
def word? : List Char → Option Json
  | ['t', 'r', 'u', 'e'] => some (.bool true)
  | ['f', 'a', 'l', 's', 'e'] => some (.bool false)
  | '0' :: 'x' :: digits => based? 16 digits
  | '0' :: 'o' :: digits => based? 8 digits
  | '0' :: 'b' :: digits => based? 2 digits
  | '+' :: rest => unsigned? false rest
  | '-' :: rest => unsigned? true rest
  | chars => unsigned? false chars

/-- Whether a character belongs to a word. -/
def isWord (c : Char) : Bool :=
  c.isAlphanum || c == '_' || c == '+' || c == '-' || c == '.'

/-- Reads a number or a truth value. -/
def word (chars : List Char) : Step Json :=
  (orMalformed chars (word? (chars.takeWhile isWord))).map
    fun value => (value, chars.dropWhile isWord)

/-- Reads a scalar. -/
def scalar (edition : Edition) (chars : List Char) : Step Json :=
  match chars with
  | '"' :: _ | '\x27' :: _ =>
    (string edition chars).map fun (text, rest) => (.string text, rest)
  | _ =>
    if opensDate chars then (dateTime edition chars).map (moment chars)
    else if opensTime chars then (time edition .time chars).map (moment chars)
    else word chars

end LspGateway.Toml
