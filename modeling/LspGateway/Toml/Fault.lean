/-!
# Editions and faults

The format has two editions. The newer one admits escapes by two hexadecimal digits,
times without seconds, tables in braces over several lines, and one more level of
nesting. A text is at fault where its edition admits nothing that stands there; the
place of a fault is shown with the line around it.
-/

namespace LspGateway.Toml

/-- The editions of the format. -/
inductive Edition where
  /-- The older edition. -/
  | older
  /-- The newer edition, which admits all that the older one does. -/
  | newer
  deriving DecidableEq, Repr

namespace Edition

/-- Whether the edition admits what only the newer one does. -/
def isNewer (edition : Edition) : Bool := edition == .newer

/-- How many containers may stand inside each other, and how many parts a key may
have. -/
def maxDepth : Edition → Nat
  | .older => 79
  | .newer => 80

end Edition

/-- What is wrong with a text. What is wrong in the newer edition is not told. -/
inductive Cause where
  /-- Something that neither edition admits. -/
  | malformed
  /-- An escape that the older edition does not know. -/
  | escape
  /-- A table in braces that does not end on its line, or ends in a comma. -/
  | bracedTable
  /-- A time of the day without seconds. -/
  | time
  /-- A date with a time without seconds. -/
  | dateTime
  /-- Too many containers inside each other, or too many parts of a key. -/
  | nesting
  /-- Too many parts of the key of a header. -/
  | headerNesting
  deriving DecidableEq, Repr

/-- The wording of a cause. -/
def Cause.phrase : Cause → String
  | .malformed => "invalid document"
  | .escape =>
    "invalid escape sequence\nexpected `b`, `f`, `n`, `r`, `t`, `u`, `U`, `\\`, `\"`"
  | .bracedTable => "invalid inline table\nexpected `\x7d`"
  | .time => "invalid time"
  | .dateTime => "invalid date-time"
  | .nesting => "recursion limit exceeded"
  | .headerNesting => "invalid table header\nrecursion limit exceeded"

/-- A fault and its place. -/
structure Fault where
  /-- What is wrong. -/
  cause : Cause
  /-- The characters from the place on. -/
  unread : List Char
  deriving DecidableEq, Repr

/-- What a reader comes to: what it has read and what is left, or a fault. -/
abbrev Step (α : Type) := Except Fault (α × List Char)

/-- Stops at a text that neither edition admits. -/
def malformed {α : Type} (chars : List Char) : Except Fault α := .error ⟨.malformed, chars⟩

/-- The result of a choice that neither edition offers more of. -/
def orMalformed {α : Type} (chars : List Char) : Option α → Except Fault α
  | some value => .ok value
  | none => malformed chars

/-- How many bytes characters take. -/
def byteLength (chars : List Char) : Nat := (chars.map Char.utf8Size).foldl (· + ·) 0

/-- So many times a character. -/
def repeated (count : Nat) (c : Char) : String := String.ofList (List.replicate count c)

/-- The wording of a fault: its line with a mark below the character at fault, as wide
as the bytes of the character. The column counts characters, or bytes where the
character at fault takes several. -/
def Fault.message (fault : Fault) (text : String) : String :=
  let chars := text.toList
  let before := chars.take (chars.length - fault.unread.length)
  let start := (before.reverse.takeWhile (· != '\n')).reverse
  let line := start ++ fault.unread.takeWhile (· != '\n')
  let width := byteLength (fault.unread.take 1)
  let column := if 1 < width then byteLength start else start.length
  let number := toString (before.count '\n' + 1)
  let margin := repeated (number.length + 1) ' ' ++ "|"
  s!"TOML parse error at line {number}, column {column + 1}\n{margin}\n" ++
    s!"{number} | {String.ofList line}\n" ++ margin ++ repeated (column + 1) ' ' ++
    repeated (max 1 (min width (byteLength line - column))) '^' ++ s!"\n{fault.cause.phrase}\n"

end LspGateway.Toml
