import LspGateway.Protocol.Params

/-!
# Events of the engine

What an engine publishes on its own account. Every kind of event becomes one
notification to the client; its content is checked when the event is made.
-/

namespace LspGateway

/-- The kinds of events. -/
inductive EventKind where
  /-- A line for the log of the client. -/
  | logMessage
  /-- A message for the user. -/
  | showMessage
  /-- Any value, for statistics. -/
  | telemetry
  /-- The problems of one document. -/
  | publishDiagnostics
  /-- An edit that the engine wants carried out. -/
  | applyEdit
  /-- Capabilities to be registered. -/
  | registerCapability
  /-- Capabilities to be withdrawn. -/
  | unregisterCapability
  deriving DecidableEq, Repr

namespace EventKind

/-- All kinds, in the order in which they are subscribed to. -/
def all : List EventKind :=
  [.logMessage, .showMessage, .telemetry, .publishDiagnostics, .applyEdit, .registerCapability,
    .unregisterCapability]

/-- The name of a kind in the log. -/
def name : EventKind → String
  | .logMessage => "LogMessage"
  | .showMessage => "ShowMessage"
  | .telemetry => "Telemetry"
  | .publishDiagnostics => "PublishDiagnostics"
  | .applyEdit => "ApplyEdit"
  | .registerCapability => "RegisterCapability"
  | .unregisterCapability => "UnregisterCapability"

/-- The method of the notification that a kind becomes. -/
def method : EventKind → String
  | .logMessage => "window/logMessage"
  | .showMessage => "window/showMessage"
  | .telemetry => "telemetry/event"
  | .publishDiagnostics => "textDocument/publishDiagnostics"
  | .applyEdit => "workspace/applyEdit"
  | .registerCapability => "client/registerCapability"
  | .unregisterCapability => "client/unregisterCapability"

/-- The shape of what a kind carries. -/
def shape : EventKind → Json.Shape
  | .logMessage => Protocol.logMessageParams
  | .showMessage => Protocol.showMessageParams
  | .telemetry => .any
  | .publishDiagnostics => Protocol.publishDiagnosticsParams
  | .applyEdit => Protocol.applyEditParams
  | .registerCapability => Protocol.registrationParams
  | .unregisterCapability => Protocol.unregistrationParams

/-- The kind of a name. -/
def ofName? (name : String) : Option EventKind :=
  all.find? fun kind => kind.name == name

/-- No kind is left out. -/
theorem mem_all (kind : EventKind) : kind ∈ all := by
  cases kind <;> decide

end EventKind

/-- An event: its kind, and what it carries in canonical form. -/
structure Event where
  /-- The kind. -/
  kind : EventKind
  /-- What it carries. -/
  params : Json

/-- An event of a kind with content that fits. -/
def Event.make (kind : EventKind) (params : Json) : Except Json.Mismatch Event :=
  (kind.shape.canonical params).map fun params => ⟨kind, params⟩

/-- An event as a value: the name of its kind and what it carries. -/
def Event.toJson (event : Event) : Json :=
  .ofPairs [("kind", .string event.kind.name), ("params", event.params)]

/-- The event that a value stands for. -/
def Event.ofJson? (json : Json) : Option Event :=
  match (json.get? "kind").bind Json.string? with
  | none => none
  | some name => (EventKind.ofName? name).bind fun kind =>
    (Event.make kind ((json.get? "params").getD .null)).toOption

end LspGateway
