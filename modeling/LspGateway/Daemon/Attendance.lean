import LspGateway.Daemon.Program
import LspGateway.Service.Command

/-!
# Attending to a client

A program that has started serves a client. What the service reports goes to the log
in its order, between the event that it has begun and the event that it is over.
-/

namespace LspGateway.Daemon

variable {state pending : Type}

/-- A program and the client that it serves. -/
structure Attendance (state pending : Type) where
  /-- The program. -/
  program : Program
  /-- The service. -/
  service : Service state pending

namespace Attendance

/-- Everything that the service has reported. -/
def journal (attendance : Attendance state pending) : List Log.Entry :=
  attendance.service.session.bridge.journal

/-- Begins to serve a client, some input of which may be at hand. -/
def begin (program : Program) (config : Config) (engine : state)
    (probe : Nat → Except Supervisor.ProbeError Bool) (input : Input) :
    Attendance state pending :=
  let service : Service state pending :=
    .create engine (SessionConfig.ofConfig config) Sink.unlimited probe
  ⟨(program.write service.session.bridge.journal).tell .serving, { service with input := input }⟩

/-- Takes up a change of the service: what it reports is written to the log. -/
def follow (attendance : Attendance state pending) (service : Service state pending) :
    Attendance state pending :=
  let after : Attendance state pending := ⟨attendance.program, service⟩
  { after with
    program := attendance.program.write (after.journal.drop attendance.journal.length) }

/-- Lets everything come to rest. -/
def settle (m : Engine state pending) (attendance : Attendance state pending) :
    Attendance state pending :=
  attendance.follow (attendance.service.settle m)

/-- Carries a command out and lets everything come to rest. -/
def run (m : Engine state pending) (attendance : Attendance state pending)
    (command : Service.Command state) : Attendance state pending :=
  attendance.follow (attendance.service.run m command).2

/-- The events of the service so far. -/
def events (attendance : Attendance state pending) : List Health :=
  .serving :: (attendance.service.outcome?.map Health.served).toList

/-- Tells how the service ended, if it did. -/
def finish (attendance : Attendance state pending) : Attendance state pending :=
  match attendance.service.outcome? with
  | some outcome => { attendance with program := attendance.program.tell (.served outcome) }
  | none => attendance

/-- The processes that are watched. -/
def watched (attendance : Attendance state pending) : List Nat :=
  (attendance.service.session.bridge.supervisors.filter fun supervisor =>
    !supervisor.finished).map Supervisor.pid

/-- Forgets what was written to the client and to the log. -/
def forget (attendance : Attendance state pending) : Attendance state pending :=
  let service := attendance.service
  let session := service.session
  { program := { attendance.program with log := [] }
    service := { service with
      sink := { service.sink with reversed := [] }
      session := { session with bridge := { session.bridge with journal := [] } } } }

/-- The exit code of a program that served a client, or did not get through with it. -/
def exitCode (attendance : Attendance state pending) : Nat :=
  (attendance.service.outcome?.map Session.Outcome.exitCode).getD 1

end Attendance

/-- Serves a client whose whole input is at hand. -/
def Program.serve (m : Engine state pending) (program : Program) (config : Config)
    (engine : state) (probe : Nat → Except Supervisor.ProbeError Bool) (input : Bytes) :
    Attendance state pending :=
  let pieces := if input.isEmpty then [] else [Piece.data input]
  ((Attendance.begin program config engine probe ⟨[], pieces, true⟩).settle m).finish

end LspGateway.Daemon
