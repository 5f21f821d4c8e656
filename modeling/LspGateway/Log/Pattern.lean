import LspGateway.Text.Alphanumeric
import LspGateway.Text.Blank

/-!
# Patterns

A regular expression that a field is to match. Whether one matches is never asked;
whether a text is one is. A pattern stands in a directive behind an equals sign and in
front of a closing brace or a comma, so that it holds none of these, and nothing in it
that opens a brace is ever closed.

A pattern is about characters, or about bytes where its flag `u` is taken away; then
nothing in it may go beyond ASCII. No tables of characters are at hand, so that a
pattern about characters names no class of them and has no letters in any case.
-/

namespace LspGateway.Log.Pattern

/-- Why a text is no pattern. -/
inductive Fault where
  /-- It is not formed like one, or needs tables of characters. -/
  | malformed
  /-- It tells words of characters apart. -/
  | wordPlace
  deriving DecidableEq, Repr

/-- The wording of a fault. -/
def Fault.message : Fault → String
  | .malformed => "error building NFA"
  | .wordPlace =>
    "unsupported regex feature for DFAs: cannot build DFAs for regexes with Unicode word " ++
      "boundaries; switch to ASCII word boundaries, or heuristically enable Unicode word " ++
      "boundaries or use a different regex engine"

/-- What holds at a place in a pattern. -/
structure Modes where
  /-- Whether letters stand for both of their cases. -/
  anyCase : Bool
  /-- Whether the pattern is about characters. -/
  characters : Bool
  /-- Whether blanks and remarks are left out. -/
  spaced : Bool

/-- What a reader comes to. -/
abbrev Step (α : Type) := Except Fault (α × List Char)

/-- Stops at what is not formed like a pattern. -/
def malformed {α : Type} : Except Fault α := .error .malformed

/-- Leaves out blanks, and remarks from a number sign to the end of the line, where
they do not count. The first argument bounds how many. -/
def skipFrom : Nat → List Char → List Char
  | 0, chars => chars
  | fuel + 1, chars =>
    match chars with
    | '#' :: rest => skipFrom fuel (rest.dropWhile (· != '\n'))
    | c :: rest => if Text.isBlank c then skipFrom fuel rest else c :: rest
    | [] => []

/-- Leaves out what does not count. -/
def Modes.skip (modes : Modes) (chars : List Char) : List Char :=
  if modes.spaced then skipFrom chars.length chars else chars

/-! ## Single characters -/

/-- What one character or escape stands for. -/
inductive Primitive where
  /-- A character, or a byte. -/
  | literal (code : Nat) (isByte : Bool)
  /-- A place in the text. -/
  | place
  /-- A place where a word begins or ends, or does not. -/
  | wordPlace
  /-- A class of characters. -/
  | set (negated : Bool)

/-- The characters with a meaning in patterns. -/
def isMeta (c : Char) : Bool := "\\.+*?()|[]\x7b\x7d^$#&-~".toList.contains c

/-- The characters that letters stand for after a backslash. -/
def letterEscapes : List (Char × Nat) :=
  [('a', 0x07), ('f', 0x0C), ('t', 0x09), ('n', 0x0A), ('r', 0x0D), ('v', 0x0B)]

/-- The value of a hexadecimal digit. -/
def hexDigit? (c : Char) : Option Nat :=
  if c.isDigit then some (c.toNat - '0'.toNat)
  else if 'a' ≤ c && c ≤ 'f' then some (c.toNat - 'a'.toNat + 10)
  else if 'A' ≤ c && c ≤ 'F' then some (c.toNat - 'A'.toNat + 10)
  else none

/-- Reads a character or byte given by so many hexadecimal digits. -/
def codePoint (digits : Nat) (isByte : Bool) (chars : List Char) : Step Primitive :=
  match (chars.take digits).mapM hexDigit? with
  | none => malformed
  | some values =>
    let code := values.foldl (fun code value => code * 16 + value) 0
    if values.length == digits && code.isValidChar then
      .ok (.literal code isByte, chars.drop digits)
    else malformed

/-- Reads what stands behind a backslash. -/
def escape : List Char → Step Primitive
  | [] => malformed
  | c :: rest =>
    if c == 'x' then codePoint 2 true rest
    else if c == 'u' then codePoint 4 false rest
    else if c == 'U' then codePoint 8 false rest
    else if "dsw".toList.contains c then .ok (.set false, rest)
    else if "DSW".toList.contains c then .ok (.set true, rest)
    else if "Az".toList.contains c then .ok (.place, rest)
    else if "bB<>".toList.contains c then .ok (.wordPlace, rest)
    else if isMeta c || (c.toNat < 0x80 && !c.isAlphanum) then
      .ok (.literal c.toNat false, rest)
    else match letterEscapes.lookup c with
      | some code => .ok (.literal code false, rest)
      | none => malformed

/-! ## Classes in brackets -/

/-- The names of classes of ASCII characters. -/
def asciiClasses : List String :=
  ["alnum", "alpha", "ascii", "blank", "cntrl", "digit", "graph", "lower", "print", "punct",
    "space", "upper", "word", "xdigit"]

/-- Reads the name of a class of ASCII characters after its bracket, if there is one;
tells whether it is negated. -/
def asciiClass? : List Char → Option (Bool × List Char)
  | ':' :: rest =>
    let (negated, rest) := match rest with
      | '^' :: rest => (true, rest)
      | rest => (false, rest)
    let name := rest.takeWhile (· != ':')
    match rest.drop name.length with
    | ':' :: ']' :: rest =>
      if asciiClasses.contains (String.ofList name) then some (negated, rest) else none
    | _ => none
  | _ => none

/-- Reads what opens a class, after its bracket: a mark of negation, and the characters
that would otherwise have a meaning. Without characters nothing is negated, since that
would go beyond ASCII. -/
def Modes.openClass (modes : Modes) (chars : List Char) : Except Fault (List Char) := do
  let chars ← match modes.skip chars with
    | '^' :: rest => if modes.characters then pure (modes.skip rest) else malformed
    | rest => pure rest
  match chars with
  | '-' :: _ => return chars.dropWhile (· == '-')
  | ']' :: rest => return rest
  | rest => return rest

/-- Reads an item of a class. -/
def classItem : List Char → Step Primitive
  | [] => malformed
  | '\\' :: rest => escape rest
  | c :: rest => .ok (.literal c.toNat false, rest)

/-- Whether an item may stand in a class. -/
def Modes.admitsItem (modes : Modes) : Primitive → Bool
  | .literal code _ => modes.characters || code < 0x80
  | .set negated => !modes.characters && !negated
  | _ => false

/-- Whether two items are the ends of a range. -/
def isRange : Primitive → Primitive → Bool
  | .literal first _, .literal last _ => first ≤ last
  | _, _ => false

/-- Reads an item of a class, or a range of characters. -/
def Modes.classRange (modes : Modes) (chars : List Char) : Except Fault (List Char) := do
  let (first, rest) ← classItem chars
  let single := if modes.admitsItem first then .ok (modes.skip rest) else malformed
  match modes.skip rest with
  | '-' :: more =>
    let next := modes.skip more
    if next.head? == some ']' || next.head? == some '-' then single
    else do
      let (last, rest) ← classItem next
      if isRange first last && modes.admitsItem first && modes.admitsItem last then return rest
      else malformed
  | _ => single

/-- Reads a class up to its end, so many classes being open. The first argument bounds
the number of items. -/
def Modes.classItems (modes : Modes) : Nat → Nat → List Char → Except Fault (List Char)
  | 0, _, _ | _, 0, _ => malformed
  | fuel + 1, depth + 1, chars =>
    match modes.skip chars with
    | [] => malformed
    | ']' :: rest => if depth = 0 then .ok rest else modes.classItems fuel depth rest
    | '&' :: '&' :: rest | '-' :: '-' :: rest | '~' :: '~' :: rest =>
      modes.classItems fuel (depth + 1) rest
    | '[' :: rest =>
      match asciiClass? rest with
      | some (negated, rest) =>
        if negated && !modes.characters then malformed
        else modes.classItems fuel (depth + 1) rest
      | none => do modes.classItems fuel (depth + 2) (← modes.openClass rest)
    | c :: rest => do modes.classItems fuel (depth + 1) (← modes.classRange (c :: rest))

/-- Reads a class after its bracket. -/
def Modes.bracketed (modes : Modes) (chars : List Char) : Except Fault (List Char) := do
  if modes.anyCase && modes.characters then malformed
  else modes.classItems (chars.length + 1) 1 (← modes.openClass chars)

/-! ## Groups -/

/-- Sets a flag. -/
def Modes.set? (modes : Modes) (value : Bool) : Char → Option Modes
  | 'i' => some { modes with anyCase := value }
  | 'u' => some { modes with characters := value }
  | 'x' => some { modes with spaced := value }
  | 'm' | 's' | 'U' | 'R' => some modes
  | _ => none

/-- Sets the flags behind the sign that they are set to; each is named once. -/
def Modes.setAll? (value : Bool) (seen : List Char) (modes : Modes) : List Char → Option Modes
  | [] => some modes
  | '-' :: rest =>
    if value && !rest.isEmpty then Modes.setAll? false seen modes rest else none
  | flag :: rest =>
    if seen.contains flag then none
    else (modes.set? value flag).bind fun modes => Modes.setAll? value (flag :: seen) modes rest

/-- Whether a text is the name of a group. -/
def isGroupName : List Char → Bool
  | [] => false
  | first :: rest =>
    (first == '_' || Text.isLetter first) &&
      rest.all fun c => "_.[]".toList.contains c || Text.isAlphanumeric c

/-- What is known between two parts of a pattern. -/
structure Draft where
  /-- What holds here. -/
  modes : Modes
  /-- What holds behind the groups that are open, the innermost first. -/
  outer : List Modes
  /-- Whether there is something to repeat. -/
  repeatable : Bool
  /-- The names of groups. -/
  names : List String
  /-- Whether words of characters are told apart. -/
  hasWordPlace : Bool

/-- Opens a group in which the given modes hold. -/
def Draft.inside (draft : Draft) (modes : Modes) : Draft :=
  { draft with modes := modes, outer := draft.modes :: draft.outer, repeatable := false }

/-- Reads the name of a group after its angle bracket. -/
def Draft.named (draft : Draft) (chars : List Char) : Step Draft :=
  let name := chars.takeWhile (· != '>')
  match chars.drop name.length with
  | _ :: rest =>
    if isGroupName name && !draft.names.contains (String.ofList name) then
      .ok ({ draft.inside draft.modes with names := String.ofList name :: draft.names }, rest)
    else malformed
  | [] => malformed

/-- Reads what opens a group, after its parenthesis, or what sets flags up to the end of
the group around. -/
def Draft.group (draft : Draft) (chars : List Char) : Step Draft :=
  match draft.modes.skip chars with
  | '?' :: 'P' :: '<' :: rest | '?' :: '<' :: rest => draft.named rest
  | '?' :: rest =>
    let flags := rest.takeWhile fun c => c != ':' && c != ')'
    match Modes.setAll? true [] draft.modes flags, rest.drop flags.length with
    | some modes, ':' :: rest => .ok (draft.inside modes, rest)
    | some modes, ')' :: rest =>
      if flags.isEmpty then malformed
      else .ok ({ draft with modes := modes, repeatable := false }, rest)
    | _, _ => malformed
  | rest => .ok (draft.inside draft.modes, rest)

/-! ## Patterns -/

/-- Takes up what one character or escape stands for. -/
def Draft.take (draft : Draft) (primitive : Primitive) : Except Fault Draft :=
  let modes := draft.modes
  let draft := { draft with repeatable := true }
  match primitive with
  | .literal code isByte =>
    if modes.characters && modes.anyCase then malformed
    else if !modes.characters && isByte && 0x80 ≤ code then malformed
    else .ok draft
  | .place => .ok draft
  | .wordPlace => .ok { draft with hasWordPlace := draft.hasWordPlace || modes.characters }
  | .set negated => if modes.characters || negated then malformed else .ok draft

/-- Reads the next part of a pattern. -/
def Draft.step (draft : Draft) : List Char → Except Fault (Draft × List Char)
  | [] => malformed
  | '(' :: rest => draft.group rest
  | ')' :: rest =>
    match draft.outer with
    | [] => malformed
    | modes :: outer =>
      .ok ({ draft with modes := modes, outer := outer, repeatable := true }, rest)
  | '|' :: rest => .ok ({ draft with repeatable := false }, rest)
  | '[' :: rest =>
    (draft.modes.bracketed rest).map fun rest => ({ draft with repeatable := true }, rest)
  | '\\' :: rest => do
    let (primitive, rest) ← escape rest
    return (← draft.take primitive, rest)
  | '\x7b' :: _ => malformed
  | '.' :: rest =>
    if draft.modes.characters then .ok ({ draft with repeatable := true }, rest) else malformed
  | c :: rest =>
    if c == '?' || c == '*' || c == '+' then
      if draft.repeatable then .ok (draft, if rest.head? == some '?' then rest.drop 1 else rest)
      else malformed
    else if c == '^' || c == '$' then (draft.take .place).map fun draft => (draft, rest)
    else (draft.take (.literal c.toNat false)).map fun draft => (draft, rest)

/-- Reads a pattern up to its end; the first argument bounds the number of parts. -/
def Draft.finish : Nat → Draft → List Char → Except Fault Draft
  | 0, _, _ => malformed
  | fuel + 1, draft, chars =>
    match draft.modes.skip chars with
    | [] => if draft.outer.isEmpty then .ok draft else malformed
    | start => do
      let (draft, rest) ← draft.step start
      Draft.finish fuel draft rest

/-- Checks that a text is a pattern. -/
def check (text : String) : Except Fault Unit := do
  let draft ← Draft.finish (text.length + 1) ⟨⟨false, true, false⟩, [], false, [], false⟩ text.toList
  if draft.hasWordPlace then .error .wordPlace

end LspGateway.Log.Pattern
