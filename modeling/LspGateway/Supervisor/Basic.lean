import LspGateway.Log.Entry
import LspGateway.Supervisor.Probe

/-!
# Watching the client process

A client that crashes cannot say goodbye. A supervisor therefore asks, at fixed
intervals, whether the process that the client named is alive, and ends when it
is not. It also ends, without telling anybody, once it is stopped or the session
is cancelled; both come before a question that is due at the same moment.
-/

namespace LspGateway

/-- A supervisor of one process. -/
structure Supervisor where
  /-- The process. -/
  pid : Nat
  /-- The time between two questions, in milliseconds. -/
  interval : Nat
  /-- When the next question is due. -/
  due : Nat
  /-- Whether it was told to stop. -/
  stopped : Bool
  /-- Whether it has ended. -/
  finished : Bool
  deriving DecidableEq, Repr

namespace Supervisor

/-- What one turn of a supervisor comes to. -/
structure Turn where
  /-- The supervisor afterwards. -/
  next : Supervisor
  /-- Whether the process was asked for. -/
  probed : Bool
  /-- Whether the process was found dead. -/
  exited : Bool
  /-- What is reported. -/
  entries : List Log.Entry

/-- Begins to watch a process at a time. Without an interval there is nothing to
wait for, and the watch ends at once. The first question is due an interval after this time,
that of the spawn: the watch is taken to have its first turn at once. -/
def start (pid interval now : Nat) : Supervisor :=
  ⟨pid, interval, now + interval, false, interval == 0⟩

/-- The entry for the beginning of a watch. -/
def startEntry (pid interval : Nat) : Log.Entry :=
  ⟨.info, .supervisor, "supervising client process",
    [("pid", .count pid), ("interval_ms", .count interval)]⟩

/-- Tells a supervisor to stop. -/
def stop (supervisor : Supervisor) : Supervisor :=
  { supervisor with stopped := true }

/-- Ends a watch that is not wanted any more. -/
def finish (supervisor : Supervisor) : Turn :=
  { next := { supervisor with finished := true }
    probed := false
    exited := false
    entries := [⟨.debug, .supervisor, "supervisor stopped", [("pid", .count supervisor.pid)]⟩] }

/-- How late a question may be asked, in milliseconds, before it counts as missed. -/
def leeway : Nat := 5

/-- When the question after one that is asked at a time is due: an interval after that one
was due, or after it is asked if it was missed. Questions that were missed are not made up
for. -/
def following (supervisor : Supervisor) (now : Nat) : Nat :=
  (if supervisor.due + leeway < now then now else supervisor.due) + supervisor.interval

/-- After a question, a whole interval passes at least from when it was due. -/
theorem le_following (supervisor : Supervisor) (now : Nat) :
    supervisor.due + supervisor.interval ≤ supervisor.following now := by
  unfold following
  split <;> omega

/-- After a question, an interval passes at most from when it is asked. -/
theorem following_le (supervisor : Supervisor) {now : Nat} (due : supervisor.due ≤ now) :
    supervisor.following now ≤ now + supervisor.interval := by
  unfold following
  split <;> omega

/-- Asks for the process at a time. -/
def ask (supervisor : Supervisor) (now : Nat) (answer : Except ProbeError Bool) : Turn :=
  let later := { supervisor with due := supervisor.following now }
  match answer with
  | .ok true => ⟨later, true, false, []⟩
  | .ok false =>
    ⟨{ supervisor with finished := true }, true, true,
      [⟨.info, .supervisor, "client process exited; terminating session",
        [("pid", .count supervisor.pid)]⟩]⟩
  | .error error =>
    ⟨later, true, false,
      [⟨.warn, .supervisor, "client process liveness check failed",
        [("pid", .count supervisor.pid), ("error", .shown error.message)]⟩]⟩

/-- One turn at a time: nothing for a watch that has ended or is not due, the
end if it is not wanted any more, a question otherwise. -/
def turn (supervisor : Supervisor) (cancelled : Bool) (now : Nat)
    (answer : Except ProbeError Bool) : Turn :=
  if supervisor.finished then ⟨supervisor, false, false, []⟩
  else if supervisor.stopped || cancelled then supervisor.finish
  else if supervisor.due ≤ now then supervisor.ask now answer
  else ⟨supervisor, false, false, []⟩

/-- The supervisor as it is shown to people. -/
def display (supervisor : Supervisor) : String :=
  let stopped := if supervisor.stopped then "true" else "false"
  s!"ProcessSupervisor \x7b pid: {supervisor.pid}, stopped: {stopped}, .. \x7d"

/-- A supervisor that was stopped asks nothing and reports no exit. -/
theorem turn_of_stopped (supervisor : Supervisor) (h : supervisor.stopped = true)
    (cancelled : Bool) (now : Nat) (answer : Except ProbeError Bool) :
    (supervisor.turn cancelled now answer).probed = false ∧
      (supervisor.turn cancelled now answer).exited = false := by
  unfold turn
  split
  · exact ⟨rfl, rfl⟩
  · simp [h, finish]

end Supervisor

end LspGateway
