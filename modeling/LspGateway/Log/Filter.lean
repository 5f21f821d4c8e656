import LspGateway.Decimal.Reader
import LspGateway.Log.Entry
import LspGateway.Log.Pattern
import LspGateway.Text.Unsigned

/-!
# Log filters

A filter is a list of directives with commas between them. A directive names a
level, a target with or without a level, and perhaps fields that an entry has to
have; without a target it holds for all entries. Of the directives that hold for an
entry the most specific one decides: the one with the longest target, then the one
with the most fields, then the one whose fields come last by name, then the later one.
Where none holds, the entry is left out.

Directives on spans, and those that demand values, never hold, since nothing is
reported inside spans and only spans have values.
-/

namespace LspGateway.Log

/-- How much is let through; nothing at all is `none`. -/
abbrev Limit := Option Level

/-- The limit of a number from zero to five. -/
def limitOfNumber? : Nat → Option Limit
  | 0 => some none
  | 1 => some (some .error)
  | 2 => some (some .warn)
  | 3 => some (some .info)
  | 4 => some (some .debug)
  | 5 => some (some .trace)
  | _ => none

/-- The limit of a name in any case, or of a number. -/
def limitOfText? (text : String) : Option Limit :=
  match (Text.readUnsigned Text.maxWord text).toOption.bind limitOfNumber? with
  | some limit => some limit
  | none =>
    if Text.sameIgnoringCase text "off" then some none else (Level.ofName? text).map some

/-- A field that an entry has to have. -/
structure FieldDemand where
  /-- The name. -/
  name : String
  /-- Whether a value is demanded, too. -/
  hasValue : Bool
  deriving DecidableEq, Repr

/-- A directive. -/
structure Directive where
  /-- What the target of an entry has to begin with. -/
  target : Option String
  /-- The span that an entry has to be in. -/
  span : Option String
  /-- The fields that an entry has to have. -/
  fields : List FieldDemand
  /-- How much is let through. -/
  limit : Limit
  deriving DecidableEq, Repr

/-- Why a text is no filter. -/
inductive FilterFault where
  /-- A directive is not formed like one. -/
  | malformed
  /-- A directive has a level that is none. -/
  | unknownLevel
  /-- A directive demands a value that is no pattern. -/
  | field (fault : Pattern.Fault)
  deriving DecidableEq, Repr

/-- The wording of a fault. -/
def FilterFault.message : FilterFault → String
  | .malformed => "invalid filter directive"
  | .field fault => "invalid field filter: " ++ fault.message
  | .unknownLevel =>
    "error parsing level filter: expected one of \"off\", \"error\", \"warn\", \"info\", " ++
      "\"debug\", \"trace\", or a number 0-5"

namespace Directive

/-- What was read of a directive up to a place. -/
inductive State where
  /-- Nothing. -/
  | start
  /-- A level or a target, from a place on. -/
  | head (start : Nat)
  /-- The opening bracket of a span, up to a place. -/
  | span (start : Nat)
  /-- The beginning of a field, up to a place. -/
  | field (start : Nat)
  /-- All fields. -/
  | fields
  /-- All that comes before a level. -/
  | target
  /-- The sign in front of a level, up to a place. -/
  | level (start : Nat)

/-- A directive that demands nothing and lets everything through. -/
def everything : Directive := ⟨none, none, [], some .trace⟩

/-- Part of a text. -/
def slice (text : List Char) (start stop : Nat) : String :=
  String.ofList ((text.take stop).drop start)

/-- Whether a directive may begin with a character. -/
def mayBegin (c : Char) : Bool :=
  c == '-' || c == ':' || c == '_' || Text.isAlphanumeric c

/-- Whether a demanded value is a truth value or a number, and no pattern. -/
def isPlainValue (text : String) : Bool :=
  let unsigned := (text.toList.dropWhile fun c => c == '+' || c == '-')
  text == "true" || text == "false" || (Decimal.Fraction.read? text).isSome ||
    (text.length ≤ unsigned.length + 1 &&
      ["inf", "infinity", "nan"].any (Text.sameIgnoringCase (String.ofList unsigned)))

/-- The field that a text demands: a name, and perhaps a value behind an equals sign.
What stands behind a second equals sign does not count. -/
def fieldOf (text : String) : Except FilterFault FieldDemand :=
  let name := text.toList.takeWhile (· != '=')
  match text.toList.drop name.length with
  | [] => .ok ⟨String.ofList name, false⟩
  | _ :: rest =>
    let value := String.ofList (rest.takeWhile (· != '='))
    match if isPlainValue value then .ok () else Pattern.check value with
    | .ok () => .ok ⟨String.ofList name, true⟩
    | .error fault => .error (.field fault)

/-- Takes up the character at a place, given what was read before. -/
def step (text : List Char) (place : Nat) (c : Char) (state : State) (read : Directive) :
    Except FilterFault (State × Directive) :=
  match state with
  | .start =>
    if c == '[' then .ok (.span (place + 1), read)
    else if mayBegin c then .ok (.head place, read)
    else .error .malformed
  | .head start =>
    if c == '=' then .ok (.level (place + 1), { read with target := slice text start place })
    else if c == '[' then .ok (.span (place + 1), { read with target := slice text start place })
    else .ok (state, read)
  | .span start =>
    if c == ']' then .ok (.target, { read with span := slice text start place })
    else if c == '\x7b' then
      let name := slice text start place
      .ok (.field (place + 1), { read with span := if name.isEmpty then none else some name })
    else .ok (state, read)
  | .field start =>
    if c != '\x7d' then .ok (state, read)
    else if place == start then .error .malformed
    else (fieldOf (slice text start place)).map fun field =>
      (.fields, { read with fields := read.fields ++ [field] })
  | .fields => if c == ']' then .ok (.target, read) else .error .malformed
  | .target => if c == '=' then .ok (.level (place + 1), read) else .error .malformed
  | .level _ => .ok (state, read)

/-- Takes up characters from a place on. -/
def steps (text : List Char) :
    Nat → List Char → State → Directive → Except FilterFault (State × Directive)
  | _, [], state, read => .ok (state, read)
  | place, c :: rest, state, read =>
    match step text place c state read with
    | .error fault => .error fault
    | .ok (state, read) => steps text (place + 1) rest state read

/-- The directive once everything was read. A level alone holds for all targets, and a
target alone lets everything through. -/
def finish (text : List Char) (state : State) (read : Directive) : Except FilterFault Directive :=
  match state with
  | .head start =>
    let word := slice text start text.length
    match limitOfText? word with
    | some limit => .ok { read with limit := limit }
    | none => .ok { read with target := some word }
  | .level start =>
    let word := slice text start text.length
    if word.isEmpty then .ok read
    else match limitOfText? word with
      | some limit => .ok { read with limit := limit }
      | none => .error .unknownLevel
  | .target => .ok read
  | _ => .error .malformed

/-- Reads a directive. Places are counted from the first character that is no blank. -/
def parse (text : String) : Except FilterFault Directive :=
  let chars := text.toList
  match steps chars 0 (Text.trimChars chars) .start everything with
  | .error fault => .error fault
  | .ok (state, read) => finish chars state read

/-- Whether a directive holds for an entry. -/
def holds (directive : Directive) (entry : Entry) : Bool :=
  let names := "message" :: entry.fields.map Prod.fst
  directive.span.isNone &&
    directive.target.all (fun target => entry.source.target.startsWith target) &&
    directive.fields.all fun field => !field.hasValue && names.contains field.name

/-- How specific a directive is. -/
def specificity (directive : Directive) : Nat × Nat :=
  ((directive.target.map fun target => target.utf8ByteSize + 1).getD 0, directive.fields.length)

/-- Whether a directive is at least as specific as another one that holds for the same
entry. -/
def atLeast (a b : Directive) : Bool :=
  b.specificity.1 < a.specificity.1 || (b.specificity.1 == a.specificity.1 &&
    (b.specificity.2 < a.specificity.2 || (b.specificity.2 == a.specificity.2 &&
      !decide (a.fields.map FieldDemand.name < b.fields.map FieldDemand.name))))

/-- The most specific of directives, the later one of two that are equally specific. -/
def mostSpecific? (directives : List Directive) : Option Directive :=
  directives.foldl (fun best directive =>
    match best with
    | none => some directive
    | some best => some (if directive.atLeast best then directive else best)) none

end Directive

/-- A filter. -/
structure Filter where
  /-- The directives. -/
  directives : List Directive
  deriving DecidableEq, Repr

namespace Filter

/-- The parts of a text between its commas. -/
def parts (text : String) : List String :=
  go [] text.toList
where
  /-- The parts, given the characters of the first one read so far, the last one
  first. -/
  go (read : List Char) : List Char → List String
    | [] => [String.ofList read.reverse]
    | ',' :: rest => String.ofList read.reverse :: go [] rest
    | c :: rest => go (c :: read) rest

/-- Reads a filter; empty parts are left out. -/
def parse (text : String) : Except FilterFault Filter :=
  (((parts text).filter fun part => !part.isEmpty).mapM Directive.parse).map Filter.mk

/-- Whether an entry is let through. -/
def admits (filter : Filter) (entry : Entry) : Bool :=
  match Directive.mostSpecific? (filter.directives.filter fun directive => directive.holds entry) with
  | some directive => directive.limit.any entry.level.within
  | none => false

/-- A filter without directives lets nothing through. -/
theorem admits_nil (entry : Entry) : (Filter.mk []).admits entry = false := rfl

end Filter

end LspGateway.Log
