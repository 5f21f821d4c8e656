import LspGateway.Dispatch.Handler

/-!
# Calling an engine by the name of a method

An engine can be called without a session around it, so that its answers can be
looked at one by one: by the route of a method, or, for the methods that a session
keeps to itself, on request. A route leads to a handler, which returns a result or an
error of its own; without one the outcome of the call is told as it is. A call that
would wait is told as such.
-/

namespace LspGateway.Dispatch

variable {state pending : Type}

/-- What an engine is called with. -/
structure Direct where
  /-- The method. -/
  method : String
  /-- The parameters. -/
  params : Json
  /-- Whether a request is cancelled before it begins. -/
  cancelled : Bool
  /-- Whether methods that a session keeps to itself reach the engine. -/
  beyondRoutes : Bool

/-- What a call comes to. -/
inductive DirectAnswer where
  /-- The method leads nowhere, or the engine was disposed of. -/
  | nothing
  /-- The handler has returned an error: the parameters do not fit, or the engine has failed. -/
  | refused (error : Error)
  /-- The call has ended: with a result, by breaking off, or, where there is no handler, by an
  error of the engine. -/
  | ended (outcome : Engine.Outcome)
  /-- The call waits. -/
  | waits

/-- What a handler has returned. -/
def DirectAnswer.returned : Except Error Json → DirectAnswer
  | .ok value => .ended (.result value)
  | .error error => .refused error

/-- What the end of a call is told as. A call that breaks off takes its handler along, and only
a session would catch that. -/
def DirectAnswer.ofOutcome (operation : Engine.Operation) (outcome : Engine.Outcome) :
    DirectAnswer :=
  match operation, outcome with
  | _, .broke _ => .ended outcome
  | .feature _, _ | .notice _, _ => .returned (conclude operation.method outcome)
  | _, _ => .ended outcome

/-- The operation behind a control, where the engine has a part in it. -/
def controlOperation? : Control → Option Engine.Operation
  | .opening => some .opening
  | .confirmation => some .confirmation
  | .shutdown => some .shutdown
  | .exit => some .exit
  | .cancel => none

/-- The operation that an engine is called for. -/
def Direct.operation? (direct : Direct) : Option Engine.Operation :=
  match MethodTable.standard.route? direct.method with
  | some (.control control) => if direct.beyondRoutes then controlOperation? control else none
  | route => route.bind Route.operation?

/-- The parameters of an operation; some have none whatever is given. -/
def Direct.given (direct : Direct) : Engine.Operation → Json
  | .shutdown | .exit => .null
  | _ => direct.params

/-- The state of cancellation that an operation comes with. -/
def Direct.token (direct : Direct) : Engine.Operation → Option Bool
  | .feature _ => some direct.cancelled
  | _ => none

/-- Calls an engine; yields what comes of it, the events it publishes meanwhile and
its state. The method `dispose` has no route and disposes of the engine. -/
def Direct.run (m : Engine state pending) (direct : Direct) (engine : state) :
    DirectAnswer × List Event × state :=
  match direct.operation? with
  | none =>
    if direct.method == "dispose" then
      let (engine, events) := m.dispose engine
      (.nothing, events, engine)
    else (.nothing, [], engine)
  | some operation =>
    match decode operation (direct.given operation) with
    | .error error => (.returned (.error error), [], engine)
    | .ok call =>
      let (engine, turn) := m.begin call (direct.token operation) engine
      match turn.progress with
      | .done outcome => (.ofOutcome operation outcome, turn.events, engine)
      | .waiting _ => (.waits, turn.events, engine)

end LspGateway.Dispatch
