import LspGateway.Json.Overlay
import LspGateway.Text.Blank
import LspGateway.Text.Unsigned
import LspGateway.Toml.Scalar

/-!
# Environment

A variable whose name begins with the prefix of the program, in any case, makes the
setting that the rest of its name says; two underscores lead into a table. What a
text stands for is found out from how it looks: truth values, numbers, quoted
texts, lists and tables, and a text as it is where nothing else fits.
-/

namespace LspGateway.Config.Variables

/-- What begins the name of every variable that is a setting. -/
def namePrefix : String := "COURIER_"

/-! ## Values -/

/-- What a reader of values comes to: what it has read and what is left. -/
abbrev Step (α : Type) := Option (α × List Char)

/-- Whether a character is a blank between values. -/
def isSpace (c : Char) : Bool :=
  c == ' ' || c == '\t' || c == '\n' || c == '\r' || c == '\x0c'

/-- Whether a character ends a word inside lists and tables. -/
def isSeparator (c : Char) : Bool :=
  c == ',' || c == '\x7b' || c == '\x7d' || c == '[' || c == ']'

/-- The integer that a word is, with a sign or without; negative ones have 63 bits. -/
def integer? (word : String) : Option Int :=
  match Text.readUnsigned Text.maxWord word, word.toList with
  | .ok value, _ => some value
  | .error _, '-' :: digits =>
    match Text.readDigits 0x8000000000000000 0 digits with
    | .ok value => if digits.isEmpty then none else some (-(value : Int))
    | .error _ => none
  | .error _, _ => none

/-- The value of a word: a fraction needs a point. -/
def ofWord (word : String) : Json :=
  let fraction := if word.toList.contains '.' then Decimal.Fraction.read? word else none
  match fraction, integer? word with
  | some number, _ => (Toml.ofFloat? number.toFloat).getD .null
  | none, some value => .ofInt value
  | none, none => .string word

/-- Reads a key of a table. -/
def key : List Char → Step String
  | '"' :: rest => (Toml.basicString .older (rest.length + 1) [] rest).toOption
  | chars =>
    let name := chars.takeWhile fun c => c.isAlphanum || c == '_' || c == '-'
    if name.isEmpty then none else some (String.ofList name, chars.drop name.length)

/-- Reads things with commas between them up to a closing character, given a reader
for one of them. The first argument bounds their number. -/
def separated {α : Type} (one : List Char → Step α) (close : Char) :
    Nat → List Char → Step (List α)
  | 0, _ | _, [] => none
  | fuel + 1, c :: rest =>
    if c == close then some ([], rest)
    else match one (c :: rest) with
      | some (value, ',' :: rest) =>
        (separated one close fuel rest).map fun (values, rest) => (value :: values, rest)
      | some (value, c :: rest) => if c == close then some ([value], rest) else none
      | _ => none

/-- Reads a key, an equals sign and a value, given a reader for the value. -/
def member (value : List Char → Step Json) (chars : List Char) :
    Step (String × Json) :=
  match key (chars.dropWhile isSpace) with
  | none => none
  | some (name, rest) =>
    match rest.dropWhile isSpace with
    | '=' :: rest => (value rest).map fun (json, rest) => ((name, json), rest)
    | _ => none

/-- Reads a value and the blanks around it. The first argument bounds how deep values
stand inside each other. -/
def value : Nat → List Char → Step Json
  | 0, _ => none
  | depth + 1, chars =>
    let read : Step Json := match chars.dropWhile isSpace with
      | 't' :: 'r' :: 'u' :: 'e' :: rest => some (.bool true, rest)
      | 'f' :: 'a' :: 'l' :: 's' :: 'e' :: rest => some (.bool false, rest)
      | '\x7b' :: rest => (separated (member (value depth)) '\x7d' (rest.length + 1) rest).map
          fun (members, rest) => (.ofPairs members, rest)
      | '[' :: rest => (separated (value depth) ']' (rest.length + 1) rest).map
          fun (items, rest) => (.array items, rest)
      | '"' :: rest => ((Toml.basicString .older (rest.length + 1) [] rest).toOption).map
          fun (text, rest) => (.string text, rest)
      | '\x27' :: c :: '\x27' :: rest => some (.string c.toString, rest)
      | '\x27' :: _ => none
      | rest =>
        let word := rest.takeWhile fun c => !isSeparator c
        some (ofWord (Text.trim (String.ofList word)), rest.drop word.length)
    read.map fun (json, rest) => (json, rest.dropWhile isSpace)

/-- Whether a text is a list because of its commas alone. -/
def isPlainList (text : String) : Bool :=
  text.toList.contains ',' &&
    !(text.toList.head?.any fun c => c == '[' || c == '\x7b' || c == '"' || c == '\x27')

/-- The parts of a text between its commas. -/
def splitCommas : List Char → List (List Char)
  | [] => [[]]
  | c :: rest =>
    match c == ',', splitCommas rest with
    | true, parts => [] :: parts
    | false, first :: parts => (c :: first) :: parts
    | false, [] => [[c]]

/-- What the text of a variable stands for. -/
def ofText (text : String) : Json :=
  let text := Text.trim text
  if Text.sameIgnoringCase text "true" then .bool true
  else if Text.sameIgnoringCase text "false" then .bool false
  else if isPlainList text then
    .array ((splitCommas text.toList).map fun part => .string (Text.trim (String.ofList part)))
  else match value (text.length + 1) text.toList with
    | some (json, []) => json
    | _ => .string text

/-! ## Names -/

/-- The parts of a name, between dots or pairs of underscores. -/
def parts (name : List Char) : List String :=
  go [] name
where
  /-- The parts, given the characters of the first one read so far, the last one
  first. -/
  go (read : List Char) : List Char → List String
    | [] => [String.ofList read.reverse]
    | '_' :: '_' :: rest | '.' :: rest => String.ofList read.reverse :: go [] rest
    | c :: rest => go (c :: read) rest

/-- A value at the end of a path. -/
def nested : List String → Json → Json
  | [], json => json
  | key :: path, json => .ofPairs [(key, nested path json)]

/-- The setting that one variable makes, under its key. Blanks around the name, with the
prefix and without, do not count, and a variable with an empty part is none. -/
def setting? (name text : String) : Option (String × Json) :=
  let name := (Text.trim name).toList
  let start := name.take namePrefix.length
  if !Text.sameIgnoringCase (String.ofList start) namePrefix then none
  else match parts (Text.trimChars (name.drop start.length)) with
    | [] => none
    | key :: path =>
      if (key :: path).contains "" then none
      else some (Text.lowerAscii key, nested (path.map Text.lowerAscii) (ofText text))

/-- The settings that the environment makes, the last one for a key winning. -/
def toJson (environment : List (String × String)) : Json :=
  .ofPairs (environment.filterMap fun (name, text) => setting? name text)

end LspGateway.Config.Variables
