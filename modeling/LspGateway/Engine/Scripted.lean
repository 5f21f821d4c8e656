import LspGateway.Engine.Bare

/-!
# The scripted engine

It does what a script says and writes down every call. A script has a list of
behaviours for each method; they are used up one for each call, the last one for
ever. A behaviour may make its call wait at a barrier until that is lifted, which
happens once and for all.
-/

namespace LspGateway.Engine

/-- How a behaviour ends its call in place of a result. -/
inductive Scripted.Ending where
  /-- With an error. -/
  | fails (error : Error)
  /-- By breaking off. -/
  | breaks (reason : Option String)

/-- What the engine does in one call, in the order of the fields. -/
structure Scripted.Behaviour where
  /-- Events to be published first. -/
  events : List Event
  /-- The barrier to wait at. -/
  barrier : Option String
  /-- Whether a cancellation leaves the wait alone. -/
  ignoresCancellation : Bool
  /-- Whether to give up if the call is cancelled by then. -/
  checks : Bool
  /-- How to end the call in place of a result. -/
  ending : Option Scripted.Ending
  /-- The result. -/
  result : Option Json

/-- What the engine writes down. -/
inductive Scripted.Record where
  /-- A call began. -/
  | called (method : String) (params : Json)
  /-- A call went on after its barrier was lifted; the state of its cancellation. -/
  | resumed (method : String) (cancelled : Option Bool)
  /-- The engine was disposed of. -/
  | disposed

/-- A call that waits. -/
structure Scripted.Pending where
  /-- The operation. -/
  operation : Operation
  /-- The barrier. -/
  barrier : String
  /-- What it does. -/
  behaviour : Scripted.Behaviour

/-- The state of the scripted engine. -/
structure Scripted where
  /-- The behaviours left for each method. -/
  script : List (String × List Scripted.Behaviour)
  /-- The barriers that were lifted. -/
  lifted : List String
  /-- The records, the last one first. -/
  reversed : List Scripted.Record

namespace Scripted

/-- An engine that follows a script. -/
def ofScript (script : List (String × List Behaviour)) : Scripted := ⟨script, [], []⟩

/-- The records in order. -/
def records (engine : Scripted) : List Record := engine.reversed.reverse

/-- Forgets the records. -/
def forget (engine : Scripted) : Scripted := { engine with reversed := [] }

/-- Writes something down. -/
def write (engine : Scripted) (record : Record) : Scripted :=
  { engine with reversed := record :: engine.reversed }

/-- Lifts a barrier. -/
def lift (engine : Scripted) (barrier : String) : Scripted :=
  { engine with lifted := barrier :: engine.lifted }

/-- The next behaviour of a method and the script without it, unless it is the
last one. -/
def next? (method : String) :
    List (String × List Behaviour) → Option Behaviour × List (String × List Behaviour)
  | [] => (none, [])
  | (name, behaviours) :: rest =>
    if name == method then
      match behaviours with
      | [] => (none, (name, []) :: rest)
      | [last] => (some last, (name, [last]) :: rest)
      | first :: more => (some first, (name, more) :: rest)
    else
      let (behaviour, rest) := next? method rest
      (behaviour, (name, behaviours) :: rest)

/-- How a call ends once nothing holds it up any more. -/
def conclude (operation : Operation) (behaviour : Behaviour) (cancelled : Option Bool) : Outcome :=
  if behaviour.checks && cancelled == some true then .failed .cancelled
  else match behaviour.ending, behaviour.result with
    | some (.fails error), _ => .failed error
    | some (.breaks reason), _ => .broke reason
    | none, none => defaultOutcome operation
    | none, some result =>
      match operation with
      | .confirmation | .shutdown | .exit | .notice _ => .result .null
      | _ => match operation.result.canonical result with
        | .ok value => .result value
        | .error _ => .broke none

/-- Lets a call go on: it gives up when it was cancelled, ends when its barrier
was lifted, and waits otherwise. -/
def proceed (pending : Pending) (cancelled : Option Bool) (engine : Scripted) :
    Scripted × Progress Pending :=
  if cancelled == some true && !pending.behaviour.ignoresCancellation then
    (engine, .done (.failed .cancelled))
  else if engine.lifted.contains pending.barrier then
    (engine.write (.resumed pending.operation.method cancelled),
      .done (conclude pending.operation pending.behaviour cancelled))
  else (engine, .waiting pending)

/-- Begins a call. -/
def begin (call : Call) (cancelled : Option Bool) (engine : Scripted) : Scripted × Turn Pending :=
  let method := call.operation.method
  let (behaviour, script) := next? method engine.script
  let engine := { engine with script := script }.write (.called method call.params)
  match behaviour with
  | none => (engine, .ended (defaultOutcome call.operation))
  | some behaviour =>
    match behaviour.barrier with
    | none => (engine, ⟨behaviour.events, .done (conclude call.operation behaviour cancelled)⟩)
    | some barrier =>
      let (engine, progress) := proceed ⟨call.operation, barrier, behaviour⟩ cancelled engine
      (engine, ⟨behaviour.events, progress⟩)

/-- Disposes of the engine. -/
def dispose (engine : Scripted) : Scripted × List Event :=
  let (behaviour, script) := next? "dispose" engine.script
  ({ engine with script := script }.write .disposed, (behaviour.map Behaviour.events).getD [])

end Scripted

/-- The engine that follows a script. -/
def scripted : Engine Scripted Scripted.Pending where
  begin := Scripted.begin
  resume := fun pending cancelled engine =>
    let (engine, progress) := Scripted.proceed pending cancelled engine
    (engine, ⟨[], progress⟩)
  dispose := Scripted.dispose

end LspGateway.Engine
