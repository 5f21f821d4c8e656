import LspGateway.Config.Load
import LspGateway.Log.Subscriber
import LspGateway.Session.Basic

/-!
# Health

What is told of the program as a whole: how its start goes, and that a client is
served. Each of these can be reported in the log.
-/

namespace LspGateway

namespace Daemon

/-- Why the program could not start. -/
inductive StartFault where
  /-- There is no configuration. -/
  | configuration (error : Config.LoadError)
  /-- The log cannot be written. -/
  | telemetry (fault : Log.InstallFault)

/-- The first line of the wording of a fault. -/
def StartFault.message : StartFault → String
  | .configuration error => "failed to load configuration: " ++ error.message
  | .telemetry fault => "failed to initialise telemetry: " ++ fault.message

/-- What is told of the program. -/
inductive Health where
  /-- The start begins. -/
  | starting
  /-- The start has gone well. -/
  | started (config : Config)
  /-- The start has failed. -/
  | failed (fault : StartFault)
  /-- A client is served. -/
  | serving
  /-- A client was served. -/
  | served (outcome : Session.Outcome)

namespace Health

/-- The name of an event. -/
def name : Health → String
  | .starting => "bootstrap_starting"
  | .started _ => "bootstrap_succeeded"
  | .failed _ => "bootstrap_failed"
  | .serving => "session_started"
  | .served _ => "session_finished"

/-- The report of an event. -/
def entry (health : Health) : Log.Entry :=
  let event := ("event", Log.Value.text health.name)
  match health with
  | .starting => ⟨.info, .health, "starting daemon bootstrap", [event]⟩
  | .started config =>
    ⟨.info, .health, "daemon bootstrap completed",
      [event, ("log_filter", .shown config.logFilter),
        ("log_format", .shown config.logFormat.display),
        ("client_poll_interval_ms", .count config.clientPollInterval)]⟩
  | .failed fault =>
    ⟨.error, .health, "daemon bootstrap failed", [event, ("error", .shown fault.message)]⟩
  | .serving => ⟨.info, .health, "serving client session", [event]⟩
  | .served outcome =>
    ⟨.info, .health, "client session finished",
      [event, ("reason", .shown outcome.ending.label), ("clean", .flag outcome.clean)]⟩

end Health

end Daemon

end LspGateway
