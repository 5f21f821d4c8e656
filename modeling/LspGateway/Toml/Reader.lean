import LspGateway.Toml.Scalar
import LspGateway.Toml.Table

/-!
# Reading documents

A document consists of lines: assignments to keys and headers of tables. An
assignment goes to the table of the header before it. A document is read as a
whole or not at all: it has to be a document of the newer edition, and what it holds
is read by the older one.
-/

namespace LspGateway.Toml

/-! ## Keys -/

/-- Whether a character may stand in a key without quotes. -/
def isBareKey (c : Char) : Bool := c.isAlphanum || c == '_' || c == '-'

/-- Reads one part of a key. -/
def keyPart (edition : Edition) : List Char → Step String
  | '"' :: rest => basicString edition (rest.length + 1) [] rest
  | '\x27' :: rest => literalString rest
  | chars =>
    let key := chars.takeWhile isBareKey
    if key.isEmpty then malformed chars else .ok (String.ofList key, chars.drop key.length)

/-- Reads a key of parts with dots between them; the first argument bounds how
many. -/
def keyParts (edition : Edition) :
    Nat → List Char → Except Fault (List String × List Char)
  | 0, chars => malformed chars
  | fuel + 1, chars => do
    let (part, rest) ← keyPart edition (chars.dropWhile isGap)
    match rest.dropWhile isGap with
    | '.' :: rest => do
      let (parts, rest) ← keyParts edition fuel rest
      return (part :: parts, rest)
    | rest => return ([part], rest)

/-- Reads a key. The fault given is that of a key with too many parts. -/
def key (edition : Edition) (tooLong : Fault) (chars : List Char) :
    Except Fault (List String × List Char) := do
  let (parts, rest) ← keyParts edition (chars.length + 1) chars
  if edition.maxDepth < parts.length then .error tooLong else return (parts, rest)

/-! ## Values -/

/-- Leaves out the rest of a line after a number sign; control characters are at fault
even there. -/
def skipComment : List Char → Except Fault (List Char)
  | '#' :: rest =>
    let body := rest.takeWhile fun c => c != '\n' && c != '\r'
    if body.any isControl then malformed rest else .ok (rest.drop body.length)
  | chars => .ok chars

/-- Leaves out blanks, comments and ends of lines; the first argument bounds how many
lines. -/
def skipLines : Nat → List Char → Except Fault (List Char)
  | 0, chars => malformed chars
  | fuel + 1, chars => do
    let rest ← skipComment (chars.dropWhile isGap)
    match newline? rest with
    | some rest => skipLines fuel rest
    | none => return rest

/-- Leaves out blanks, comments and ends of lines. -/
def skip (chars : List Char) : Except Fault (List Char) :=
  skipLines (chars.length + 1) chars

/-- Reads the items of an array after its bracket, given a reader for one item. The
first argument bounds their number. -/
def items (item : List Char → Step Json) :
    Nat → List Char → Except Fault (List Json × List Char)
  | 0, chars => malformed chars
  | fuel + 1, chars => do
    match ← skip chars with
    | ']' :: rest => return ([], rest)
    | start => do
      let (value, rest) ← item start
      match ← skip rest with
      | ',' :: rest => do
        let (values, rest) ← items item fuel rest
        return (value :: values, rest)
      | ']' :: rest => return ([value], rest)
      | rest => malformed rest

/-- Reads an assignment, given a reader for its value and the fault of a key with too
many parts. -/
def assignment (edition : Edition) (value : List Char → Step Json) (tooLong : Fault)
    (chars : List Char) : Except Fault ((List String × Json) × List Char) := do
  match ← key edition tooLong chars with
  | (path, '=' :: rest) => do
    let (json, rest) ← value (rest.dropWhile isGap)
    return ((path, json), rest)
  | (_, rest) => malformed rest

/-- Leaves out what may stand between the parts of a table in braces: blanks, and in
the newer edition also comments and ends of lines. -/
def skipBraced (edition : Edition) (chars : List Char) : Except Fault (List Char) :=
  if edition.isNewer then skip chars
  else match chars.dropWhile isGap with
    | c :: rest =>
      if c == '#' || (newline? (c :: rest)).isSome then .error ⟨.bracedTable, c :: rest⟩
      else .ok (c :: rest)
    | [] => malformed []

/-- Leaves out what stands behind a comma in a table in braces. Tells also whether the
table ends there, which the older edition does not admit. -/
def afterComma (edition : Edition) (chars : List Char) :
    Except Fault (Bool × List Char) := do
  let rest ← skip (chars.drop 1)
  let sameLine := rest.length == ((chars.drop 1).dropWhile isGap).length
  let ends := rest.head? == some '\x7d'
  if edition.isNewer || (sameLine && !ends) then return (ends, rest)
  else .error ⟨.bracedTable, chars⟩

/-- Reads the assignments of a table in braces, given a reader for one value. The first
argument bounds their number; the text behind it starts with the comma in front of the
next assignment, or with the first one. -/
def braced (edition : Edition) (value : List Char → Step Json) :
    Nat → List Char → Entries → List Char → Except Fault (Entries × List Char)
  | 0, _, _, chars => malformed chars
  | fuel + 1, place, entries, chars => do
    let ((path, json), rest) ← assignment edition value ⟨.bracedTable, place⟩ chars
    let entries ← orMalformed chars (entries.assign? path json)
    match ← skipBraced edition rest with
    | '}' :: rest => return (entries, rest)
    | ',' :: rest => do
      let (ends, next) ← afterComma edition (',' :: rest)
      if ends then return (entries, next.drop 1)
      else braced edition value fuel (',' :: rest) entries next
    | rest => malformed rest

/-- Reads a value, at most so many containers inside each other as the first argument
says. -/
def value (edition : Edition) : Nat → List Char → Step Json
  | depth, '[' :: rest =>
    match depth with
    | 0 => .error ⟨.nesting, '[' :: rest⟩
    | depth + 1 =>
      (items (value edition depth) (rest.length + 1) rest).map
        fun (list, rest) => (.array list, rest)
  | depth, '{' :: rest =>
    match depth with
    | 0 => .error ⟨.nesting, '{' :: rest⟩
    | depth + 1 =>
      match skipBraced edition rest with
      | .error fault => .error fault
      | .ok ('}' :: rest) => .ok (.ofPairs [], rest)
      | .ok start =>
        (braced edition (value edition depth) (rest.length + 1) start [] start).map
          fun (entries, rest) => (entries.toJson, rest)
  | _, chars => scalar edition chars

/-! ## Lines -/

/-- What is known between two lines. -/
structure Draft where
  /-- Everything so far. -/
  entries : Entries
  /-- The path of the header that holds. -/
  path : List String

/-- Reads a header after its bracket; it may stand for one more table of an array. -/
def header (edition : Edition) (draft : Draft) (array : Bool) (chars : List Char) :
    Except Fault (Draft × List Char) := do
  let (path, rest) ← key edition ⟨.headerNesting, chars⟩ chars
  let rest ← expect ']' rest
  let rest ← if array then expect ']' rest else .ok rest
  let last := path.getLast?.getD ""
  let change := if array then Entries.extend? last else Entries.define? last
  let entries ← orMalformed chars (draft.entries.within? change path.dropLast)
  return (⟨entries, path⟩, rest)

/-- Reads what a line holds. -/
def line (edition : Edition) (draft : Draft) (chars : List Char) :
    Except Fault (Draft × List Char) :=
  match chars with
  | '[' :: '[' :: rest => header edition draft true rest
  | '[' :: rest => header edition draft false rest
  | _ => do
    let ((path, json), rest) ←
      assignment edition (value edition edition.maxDepth) ⟨.nesting, chars⟩ chars
    let entries ← orMalformed chars
      (draft.entries.within? (fun entries => entries.assign? path json) draft.path)
    return (⟨entries, draft.path⟩, rest)

/-- Reads all lines; the first argument bounds how many. -/
def lines (edition : Edition) : Nat → Draft → List Char → Except Fault Entries
  | 0, _, chars => malformed chars
  | fuel + 1, draft, chars => do
    match ← skip chars with
    | [] => return draft.entries
    | start => do
      let (draft, rest) ← line edition draft start
      match ← skipComment (rest.dropWhile isGap) with
      | [] => return draft.entries
      | rest => do
        let rest ← orMalformed rest (newline? rest)
        lines edition fuel draft rest

/-- Reads a document of an edition. A mark of the byte order in front is left out. -/
def readAs (edition : Edition) (text : String) : Except Fault Json :=
  let chars := match text.toList with
    | '\uFEFF' :: rest => rest
    | chars => chars
  (lines edition (chars.length + 1) ⟨[], []⟩ chars).map Entries.toJson

/-- What the text of a document comes to. -/
inductive Reading where
  /-- It holds these entries. -/
  | entries (json : Json)
  /-- The newer edition admits it, but not the older one. -/
  | outdated (fault : Fault)
  /-- It is no document. -/
  | nothing

/-- Reads a document: it has to be one of the newer edition, and is read by the older
one. -/
def read (text : String) : Reading :=
  match readAs .newer text, readAs .older text with
  | .error _, _ => .nothing
  | .ok _, .error fault => .outdated fault
  | .ok _, .ok json => .entries json

end LspGateway.Toml
