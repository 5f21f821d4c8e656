import LspGateway.Engine.Placeholder
import LspGateway.Engine.Scripted

/-!
# The engines at hand

One engine whose state says which of the engines it is.
-/

namespace LspGateway.Engine

/-- The state of one of the engines. -/
inductive Backend where
  /-- The placeholder engine. -/
  | placeholder (documents : Documents)
  /-- The bare engine. -/
  | bare
  /-- The scripted engine. -/
  | scripted (engine : Scripted)

/-- A turn of an engine whose calls never wait. -/
def Turn.never {pending : Type} (turn : Turn Empty) : Turn pending :=
  ⟨turn.events, match turn.progress with
    | .done outcome => .done outcome
    | .waiting call => call.elim⟩

namespace Backend

/-- Begins a call. -/
def begin (call : Call) (cancelled : Option Bool) :
    Backend → Backend × Turn Scripted.Pending
  | .placeholder documents =>
    let (documents, turn) := Engine.placeholder.begin call cancelled documents
    (.placeholder documents, turn.never)
  | .bare => (.bare, (Engine.bare.begin call cancelled ()).2.never)
  | .scripted engine =>
    let (engine, turn) := Engine.scripted.begin call cancelled engine
    (.scripted engine, turn)

/-- Resumes a call; only the scripted engine has any that wait. -/
def resume (pending : Scripted.Pending) (cancelled : Option Bool) :
    Backend → Backend × Turn Scripted.Pending
  | .scripted engine =>
    let (engine, turn) := Engine.scripted.resume pending cancelled engine
    (.scripted engine, turn)
  | other => (other, ⟨[], .waiting pending⟩)

/-- Disposes of the engine. -/
def dispose : Backend → Backend × List Event
  | .placeholder documents =>
    let (documents, events) := Engine.placeholder.dispose documents
    (.placeholder documents, events)
  | .bare => (.bare, (Engine.bare.dispose ()).2)
  | .scripted engine =>
    let (engine, events) := Engine.scripted.dispose engine
    (.scripted engine, events)

/-- Lifts a barrier of the scripted engine. -/
def lift (barrier : String) : Backend → Backend
  | .scripted engine => .scripted (engine.lift barrier)
  | other => other

/-- What the scripted engine wrote down. -/
def records : Backend → List Scripted.Record
  | .scripted engine => engine.records
  | _ => []

/-- Forgets what the scripted engine wrote down. -/
def forget : Backend → Backend
  | .scripted engine => .scripted engine.forget
  | other => other

/-- The open documents of the placeholder engine. -/
def documents? : Backend → Option Documents
  | .placeholder documents => some documents
  | _ => none

end Backend

/-- The engines at hand, as one engine. -/
def standard : Engine Backend Scripted.Pending where
  begin := Backend.begin
  resume := Backend.resume
  dispose := Backend.dispose

end LspGateway.Engine
