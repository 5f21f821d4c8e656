import LspGateway.Supervisor.Basic

/-!
# A supervisor under a clock

The clock stands still while the supervisor works. Moving it lets every question
that falls due on the way be asked at its time, the last moment included.
-/

namespace LspGateway.Supervisor

/-- A supervisor, the clock, and what has come of it. -/
structure Watch where
  /-- The supervisor. -/
  supervisor : Supervisor
  /-- The time. -/
  now : Nat
  /-- Whether the session was cancelled. -/
  cancelled : Bool
  /-- What the process is found to be when it is asked for. -/
  answer : Except ProbeError Bool
  /-- How often the process was asked for. -/
  probes : Nat
  /-- How often it was found dead. -/
  exits : Nat
  /-- What was reported, in order. -/
  journal : List Log.Entry

namespace Watch

/-- Begins to watch a process. -/
def start (pid interval : Nat) (answer : Except ProbeError Bool) : Watch :=
  { supervisor := .start pid interval 0
    now := 0
    cancelled := false
    answer := answer
    probes := 0
    exits := 0
    journal := [startEntry pid interval] }

/-- Lets the supervisor have a turn. -/
def settle (watch : Watch) : Watch :=
  let turn := watch.supervisor.turn watch.cancelled watch.now watch.answer
  { watch with
    supervisor := turn.next
    probes := watch.probes + turn.probed.toNat
    exits := watch.exits + turn.exited.toNat
    journal := watch.journal ++ turn.entries }

/-- Moves the clock to the next time at which a question is due, then lets it be
asked; the first argument bounds how often. -/
def passTurns : Nat → Nat → Watch → Watch
  | 0, target, watch => { watch with now := target }
  | fuel + 1, target, watch =>
    if watch.supervisor.finished || target < watch.supervisor.due then { watch with now := target }
    else passTurns fuel target { watch with now := max watch.now watch.supervisor.due }.settle

/-- What can be done with a watch. -/
inductive Command where
  /-- To let time pass, in milliseconds. -/
  | advance (time : Nat)
  /-- To say what the process is found to be from now on. -/
  | answer (answer : Except ProbeError Bool)
  /-- To stop the supervisor. -/
  | stop
  /-- To cancel the session. -/
  | cancelSession

/-- Carries out a command and lets everything come to rest. -/
def run (watch : Watch) : Command → Watch
  | .advance time =>
    let watch := watch.settle
    passTurns (time / (max watch.supervisor.interval 1) + 1) (watch.now + time) watch
  | .answer answer => { watch with answer := answer }.settle
  | .stop => { watch with supervisor := watch.supervisor.stop }.settle
  | .cancelSession => { watch with cancelled := true }.settle

end Watch

end LspGateway.Supervisor
