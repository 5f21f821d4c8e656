/-!
# Probing processes

Whether a process is alive can be asked, and sometimes not be told.
-/

namespace LspGateway.Supervisor

/-- Why a probe has no answer. -/
inductive ProbeError where
  /-- The number names no single process. -/
  | invalidPid (pid : Nat)
  /-- Asking failed. -/
  | query (pid : Nat) (reason : String)
  deriving DecidableEq, Repr

/-- The wording of a probe error. -/
def ProbeError.message : ProbeError → String
  | .invalidPid pid => s!"process id {pid} does not name a single process"
  | .query pid reason => s!"failed to query process {pid}: {reason}"

/-- The greatest number of a process, `2 ^ 31 - 1`; zero and greater numbers name groups. -/
def maxPid : Nat := 0x7FFFFFFF

/-- Asks a table of running processes. -/
def probe (running : Nat → Bool) (pid : Nat) : Except ProbeError Bool :=
  if pid = 0 ∨ maxPid < pid then .error (.invalidPid pid) else .ok (running pid)

end LspGateway.Supervisor
