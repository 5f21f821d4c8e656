import LspGateway.Config.Basic
import LspGateway.Log.Filter

/-!
# Subscribers

A subscriber writes the entries that its filter lets through, each as an object or as
a line of text. There is one for the whole program: the first that is installed stays,
and later configurations are not even looked at.
-/

namespace LspGateway.Log

/-- What is written of an entry. -/
inductive Line where
  /-- An object. -/
  | object (json : Json)
  /-- A text. -/
  | text (text : String)

/-- A subscriber. -/
structure Subscriber where
  /-- What it writes. -/
  filter : Filter
  /-- How it writes. -/
  format : LogFormat

/-- What a subscriber writes of an entry. -/
def Subscriber.line? (subscriber : Subscriber) (entry : Entry) : Option Line :=
  if subscriber.filter.admits entry then
    some (match subscriber.format with
      | .json => .object entry.toJson
      | .compact => .text entry.line)
  else none

/-- The place for the one subscriber. -/
inductive Place where
  /-- Nobody has it. -/
  | free
  /-- Somebody else has it. -/
  | taken
  /-- A subscriber of the program has it. -/
  | held (subscriber : Subscriber)

/-- Why no subscriber could be installed. -/
inductive InstallFault where
  /-- The filter cannot be read. -/
  | filter (fault : FilterFault)
  /-- Somebody else has the place. -/
  | taken
  deriving DecidableEq, Repr

/-- The wording of a fault. -/
def InstallFault.message : InstallFault → String
  | .filter fault => "invalid log filter: " ++ fault.message
  | .taken => "failed to install telemetry subscriber: " ++
      "a global default trace dispatcher has already been set"

namespace Place

/-- Installs the subscriber that a configuration describes, unless there is one. -/
def install (place : Place) (config : Config) : Except InstallFault Place :=
  match place with
  | .held subscriber => .ok (.held subscriber)
  | _ =>
    match Filter.parse config.logFilter, place with
    | .error fault, _ => .error (.filter fault)
    | .ok _, .taken => .error .taken
    | .ok filter, _ => .ok (.held ⟨filter, config.logFormat⟩)

/-- What is written of entries. -/
def lines (place : Place) (entries : List Entry) : List Line :=
  match place with
  | .held subscriber => entries.filterMap subscriber.line?
  | _ => []

/-- The first subscriber stays. -/
theorem install_held (subscriber : Subscriber) (config : Config) :
    (Place.held subscriber).install config = .ok (.held subscriber) := rfl

end Place

end LspGateway.Log
