import LspGateway.Json.Printer
import LspGateway.Text.Blank
import LspGateway.Text.Quoted

/-!
# Log entries

What the gateway reports about itself. An entry has a level, the part of the
gateway that it comes from, a message and named values. It can be written as a
JSON object or as one line of text; in a line, values that were texts to begin
with are quoted, and shown values stand as they are.
-/

namespace LspGateway.Log

/-- How grave an entry is. -/
inductive Level where
  /-- Something failed for good. -/
  | error
  /-- Something was refused or dropped. -/
  | warn
  /-- A milestone of a session. -/
  | info
  /-- What happens to single messages. -/
  | debug
  /-- What is skipped. -/
  | trace
  deriving DecidableEq, Repr

/-- The name of a level as it is written. -/
def Level.name : Level → String
  | .error => "ERROR"
  | .warn => "WARN"
  | .info => "INFO"
  | .debug => "DEBUG"
  | .trace => "TRACE"

/-- All levels. -/
def Level.all : List Level := [.error, .warn, .info, .debug, .trace]

/-- The level of a name in any case. -/
def Level.ofName? (name : String) : Option Level :=
  Level.all.find? fun level => Text.sameIgnoringCase level.name name

/-- How much a level lets through; a greater number lets through more. -/
def Level.verbosity : Level → Nat
  | .error => 1
  | .warn => 2
  | .info => 3
  | .debug => 4
  | .trace => 5

/-- Whether an entry of a level is shown where the given level is asked for. -/
def Level.within (level asked : Level) : Bool :=
  level.verbosity ≤ asked.verbosity

/-- The parts of the gateway that report. -/
inductive Source where
  /-- The link between engine events and the client. -/
  | adapter
  /-- The registry of outstanding requests. -/
  | cancellation
  /-- The handling of messages. -/
  | dispatch
  /-- The teardown of a session. -/
  | disposal
  /-- The health of the whole program. -/
  | health
  /-- The phases of a session. -/
  | lifecycle
  /-- The queue of outgoing messages. -/
  | outbound
  /-- The session as a whole. -/
  | session
  /-- The watch over the client process. -/
  | supervisor
  deriving DecidableEq, Repr

/-- The name of a source. -/
def Source.name : Source → String
  | .adapter => "adapter"
  | .cancellation => "cancellation"
  | .dispatch => "dispatch"
  | .disposal => "disposal"
  | .health => "health"
  | .lifecycle => "lifecycle"
  | .outbound => "outbound"
  | .session => "session"
  | .supervisor => "supervisor"

/-- The name under which a source's entries are filtered and written. -/
def Source.target (source : Source) : String :=
  "courierd::" ++ source.name

/-- A named value of an entry. -/
inductive Value where
  /-- A truth value. -/
  | flag (value : Bool)
  /-- A natural number. -/
  | count (value : Nat)
  /-- A text, quoted where it stands in a line. -/
  | text (value : String)
  /-- A value that was already turned into text. -/
  | shown (value : String)
  deriving DecidableEq, Repr

/-- The value in a JSON object. -/
def Value.toJson : Value → Json
  | .flag value => .bool value
  | .count value => .ofNat value
  | .text value | .shown value => .string value

/-- The value in a line. -/
def Value.inLine : Value → String
  | .flag value => if value then "true" else "false"
  | .count value => toString value
  | .text value => Text.quoted value
  | .shown value => value

/-- One report. -/
structure Entry where
  /-- How grave it is. -/
  level : Level
  /-- Which part reports. -/
  source : Source
  /-- What happened. -/
  message : String
  /-- The values, in the order in which a line shows them. -/
  fields : List (String × Value)
  deriving DecidableEq, Repr

namespace Entry

/-- The entry as an object: its values together with message, level and target.
A value under the name of the message takes the message's place. -/
def toJson (entry : Entry) : Json :=
  .ofPairs ([("message", .string entry.message), ("level", .string entry.level.name),
    ("target", .string entry.source.target)] ++
      entry.fields.map fun (name, value) => (name, value.toJson))

/-- A value in a line: with its name, unless that is the name of the message. -/
def fieldInLine (name : String) (value : Value) : String :=
  if name == "message" then value.inLine else name ++ "=" ++ value.inLine

/-- The entry as one line of text. -/
def line (entry : Entry) : String :=
  entry.level.name ++ " " ++ entry.source.target ++ ": " ++ " ".intercalate
    (entry.message :: entry.fields.map fun (name, value) => fieldInLine name value)

end Entry

end LspGateway.Log
