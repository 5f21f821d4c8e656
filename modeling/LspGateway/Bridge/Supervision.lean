import LspGateway.Bridge.Basic

/-!
# Turns of the supervisors of a bridge

Supervisors take their turns one after the other. The clock is moved from one
moment at which something is due to the next, so that everything happens at its
time.
-/

namespace LspGateway.Bridge

variable {state : Type}

/-- The supervisor of a number. -/
def supervisor? (bridge : Bridge state) (number : Nat) : Option Supervisor :=
  bridge.supervisors[number]?

/-- What a turn of a supervisor came to, apart from what it reported. -/
structure SupervisorTurn where
  /-- The process that was asked for. -/
  probed : Option Nat
  /-- Whether it was found dead. -/
  exited : Bool

/-- Lets a supervisor have a turn. -/
def turnSupervisor (bridge : Bridge state) (number : Nat) (cancelled : Bool) (now : Nat)
    (probe : Nat → Except Supervisor.ProbeError Bool) : SupervisorTurn × Bridge state :=
  match bridge.supervisor? number with
  | none => (⟨none, false⟩, bridge)
  | some supervisor =>
    let turn := supervisor.turn cancelled now (probe supervisor.pid)
    (⟨if turn.probed then some supervisor.pid else none, turn.exited⟩,
      { bridge with supervisors := bridge.supervisors.set number turn.next }.report turn.entries)

/-- The moments at which supervisors that have not ended are due. -/
def dueTimes (bridge : Bridge state) : List Nat :=
  (bridge.supervisors.filter fun supervisor => !supervisor.finished).map Supervisor.due

/-- The next moment at which a supervisor is due, if it is not after a given
one. -/
def nextDue? (bridge : Bridge state) (target : Nat) : Option Nat :=
  (bridge.dueTimes.min?).filter (· ≤ target)

/-- How many turns can fall due until a moment. -/
def turnBound (bridge : Bridge state) (target : Nat) : Nat :=
  (bridge.supervisors.map fun supervisor =>
    (target - supervisor.due) / (max supervisor.interval 1) + 1).foldl (· + ·) 0

end LspGateway.Bridge
