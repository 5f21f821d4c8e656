import LspGateway.Engine.Error
import LspGateway.Engine.Event
import LspGateway.Engine.Operation

/-!
# What the gateway asks of an engine

An engine is told of calls and publishes events. A call ends at once or waits;
a waiting call is resumed from time to time until it ends. Calls that are
requests come with the state of their cancellation, which an engine is free to
ignore. An engine is a record of functions on its own states, so that what is
proved of the gateway holds for every engine.
-/

namespace LspGateway

namespace Engine

/-- How a call ends. -/
inductive Outcome where
  /-- With a result. -/
  | result (value : Json)
  /-- With an error. -/
  | failed (error : Error)
  /-- By breaking off, perhaps with a reason. -/
  | broke (reason : Option String)

/-- Where a call stands. -/
inductive Progress (pending : Type) where
  /-- It has ended. -/
  | done (outcome : Outcome)
  /-- It waits for something. -/
  | waiting (call : pending)

/-- What one turn of a call comes to: events published meanwhile, and where the
call stands. -/
structure Turn (pending : Type) where
  /-- The events, in order. -/
  events : List Event
  /-- Where the call stands. -/
  progress : Progress pending

/-- A turn that ends its call without any event. -/
def Turn.ended {pending : Type} (outcome : Outcome) : Turn pending :=
  ⟨[], .done outcome⟩

end Engine

/-- An engine with states of one type and waiting calls of another. The
cancellation of a call is `none` where the call cannot be cancelled. -/
structure Engine (state pending : Type) where
  /-- Begins a call. -/
  begin : Engine.Call → (cancelled : Option Bool) → state → state × Engine.Turn pending
  /-- Resumes a waiting call. -/
  resume : pending → (cancelled : Option Bool) → state → state × Engine.Turn pending
  /-- Disposes of the engine; events may be published on the way. Unlike a call, a disposal has
  no outcome: it neither fails nor breaks off. -/
  dispose : state → state × List Event

end LspGateway
