import LspGateway.Daemon.Health

/-!
# The program

The program loads its configuration and installs its log. A start that fails is told
and leaves the log as it was; the events of the start are told in order whatever comes
of it.
-/

namespace LspGateway.Daemon

/-- The name under which the log that a program has installed is shown. -/
def telemetryName : String := "TelemetryHandle"

/-- What a program keeps from one start to the next. -/
structure Program where
  /-- The place for the one who writes the log. -/
  place : Log.Place
  /-- What was written of the log. -/
  log : List Log.Line
  /-- Whether the events are reported in the log. -/
  structured : Bool

namespace Program

/-- A program that nothing was done with. -/
def fresh : Program := ⟨.free, [], true⟩

/-- Writes entries to the log. -/
def write (program : Program) (entries : List Log.Entry) : Program :=
  { program with log := program.log ++ program.place.lines entries }

/-- Reports an event, if events are reported. -/
def tell (program : Program) (health : Health) : Program :=
  if program.structured then program.write [health.entry] else program

/-- What a start comes to. -/
structure Start where
  /-- The configuration, or why there is none. -/
  result : Except StartFault Config
  /-- The events, in order. -/
  events : List Health
  /-- The program afterwards. -/
  program : Program

/-- Starts with what loading the configuration has come to. -/
def start (program : Program) (loaded : Except Config.LoadError Config) : Start :=
  let begun := program.tell .starting
  let fail (fault : StartFault) : Start :=
    ⟨.error fault, [.starting, .failed fault], begun.tell (.failed fault)⟩
  match loaded with
  | .error error => fail (.configuration error)
  | .ok config =>
    match begun.place.install config with
    | .error fault => fail (.telemetry fault)
    | .ok place =>
      ⟨.ok config, [.starting, .started config],
        { begun with place := place }.tell (.started config)⟩

/-- A start tells that it begins, and then what came of it, nothing else. -/
theorem events_start (program : Program) (loaded : Except Config.LoadError Config) :
    (program.start loaded).events = [.starting,
      match (program.start loaded).result with
      | .ok config => .started config
      | .error fault => .failed fault] := by
  unfold start
  cases loaded with
  | error error => rfl
  | ok config =>
    dsimp only
    cases (program.tell .starting).place.install config <;> rfl

end Program

/-- A program that has started, as it is shown to people. -/
def display (config : Config) : String :=
  s!"Daemon \x7b config: {config.display}, telemetry: {telemetryName}, .. \x7d"

/-- What is said of a start that has failed. -/
def complaint (fault : StartFault) : String := "courierd: " ++ fault.message

end LspGateway.Daemon
