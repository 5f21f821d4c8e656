import LspGateway.Agenda
import LspGateway.Hub.Basic

/-!
# Emissions with handlers that act

Here a handler is a name and a list of steps, which it carries out on the same
hub while the emission that reached it is still going on. The handlers of an
emission are fixed when it begins; what they do meanwhile only concerns later
emissions. Everything that happens is noted down in order.
-/

namespace LspGateway.Hub

/-- A step on a hub. -/
inductive Step where
  /-- To subscribe, under a name, a handler that carries out the steps. -/
  | subscribe (kind : EventKind) (name : String) (reaction : List Step)
  /-- To remove the subscription made last under a name. -/
  | unsubscribe (name : String)
  /-- To emit an event. -/
  | emit (event : Event)

/-- A handler: its name, and the steps that an event makes it carry out. -/
structure Listener where
  /-- The name. -/
  name : String
  /-- The steps. -/
  reaction : List Step

/-- What a step is answered. -/
inductive Answer where
  /-- The number of the new subscription. -/
  | subscribed (id : Nat)
  /-- Whether the subscription was there. -/
  | unsubscribed (was : Bool)
  /-- The name was never used. -/
  | unknown
  /-- How many handlers were told. -/
  | told (handlers : Nat)
  deriving DecidableEq, Repr

/-- What is noted down. -/
inductive Note where
  /-- An event reached a handler. -/
  | delivered (name : String) (event : Event)
  /-- A handler got an answer to one of its steps. -/
  | answered (name : String) (answer : Answer)

/-- A hub together with the names and the notes. -/
structure Board where
  /-- The hub. -/
  hub : Hub Listener
  /-- The subscription made last under each name. -/
  names : List (String × Nat)
  /-- The notes, the last one first. -/
  reversed : List Note

namespace Board

/-- An empty hub. -/
def fresh : Board := ⟨.empty, [], []⟩

/-- Notes something down. -/
def note (board : Board) (note : Note) : Board :=
  { board with reversed := note :: board.reversed }

/-- The notes in order. -/
def notes (board : Board) : List Note := board.reversed.reverse

/-- What is still to be done. -/
inductive Task where
  /-- To tell a handler of an event. -/
  | deliver (listener : Listener) (event : Event)
  /-- To carry out a step of a handler. -/
  | perform (name : String) (step : Step)
  /-- To note the answer to a step of a handler. -/
  | answer (name : String) (answer : Answer)

/-- Begins a step: its answer, what changed at once, and what is left to do. -/
def begin (board : Board) : Step → Answer × Board × List Task
  | .subscribe kind name reaction =>
    let (id, hub) := board.hub.subscribe kind ⟨name, reaction⟩
    (.subscribed id,
      { board with hub := hub, names := (name, id) :: board.names }, [])
  | .unsubscribe name =>
    match board.names.lookup name with
    | none => (.unknown, board, [])
    | some id =>
      let (was, hub) := board.hub.unsubscribe id
      (.unsubscribed was, { board with hub := hub }, [])
  | .emit event =>
    let listeners := board.hub.listeners event.kind
    (.told listeners.length, board, listeners.map fun listener => .deliver listener event)

/-- Does one task. -/
def work (task : Task) (board : Board) : Board × List Task :=
  match task with
  | .deliver listener event =>
    (board.note (.delivered listener.name event),
      listener.reaction.map fun step => .perform listener.name step)
  | .perform name step =>
    let (result, board, more) := board.begin step
    (board, more ++ [.answer name result])
  | .answer name result => (board.note (.answered name result), [])

/-- Carries out a step to its end. Nothing comes of an emission that never
ends. -/
def run (board : Board) (step : Step) : Option (Answer × Board) :=
  let (result, board, agenda) := board.begin step
  match Agenda.run work Agenda.patience agenda board with
  | (board, []) => some (result, board)
  | (_, _ :: _) => none

end Board

end LspGateway.Hub
