import LspGateway.Frame.Reader
import LspGateway.Json.Shape
import LspGateway.Text.Blank

/-!
# Configuration

What can be configured, the values that hold otherwise, and what sessions make of
them. Zero counts as not set where it would make no sense.
-/

namespace LspGateway

/-- How the log is written. -/
inductive LogFormat where
  /-- One JSON object for each entry. -/
  | json
  /-- One line of text for each entry. -/
  | compact
  deriving DecidableEq, Repr

namespace LogFormat

/-- All formats. -/
def all : List LogFormat := [.json, .compact]

/-- The name of a format. -/
def name : LogFormat → String
  | .json => "json"
  | .compact => "compact"

/-- The name of a format as values are shown in the log. -/
def display : LogFormat → String
  | .json => "Json"
  | .compact => "Compact"

/-- The format of a name in any case. -/
def parse? (text : String) : Option LogFormat :=
  all.find? fun format => Text.sameIgnoringCase format.name text

/-- What is said of a name that is no format. -/
def unknownMessage : String := "Matching variant not found"

/-- The values that stand for a format. -/
def shape : Json.Shape := .variant (all.map name)

/-- The format that a value stands for; here case matters. -/
def ofJson (json : Json) : Except Json.Mismatch LogFormat :=
  (shape.canonical json).map fun canonical =>
    match canonical with
    | .string "compact" => .compact
    | _ => .json

/-- Names are read back. -/
theorem parse?_name (format : LogFormat) : parse? format.name = some format := by
  cases format <;> decide +kernel

end LogFormat

/-- The configuration. -/
structure Config where
  /-- What of the log is written. -/
  logFilter : String
  /-- How the log is written. -/
  logFormat : LogFormat
  /-- The time between two questions for the client process, in milliseconds. -/
  clientPollInterval : Nat
  /-- The longest payload admitted. -/
  maxFrameBytes : Nat
  deriving DecidableEq, Repr

namespace Config

/-- The time between two questions where none is configured. -/
def defaultPollInterval : Nat := 2000

/-- The configuration where nothing is configured. -/
def default : Config := ⟨"info", .json, defaultPollInterval, Frame.defaultLimit⟩

/-- The values that are configurations. -/
def shape : Json.Shape :=
  .record "Config"
    [.required "log_filter" .text, .required "log_format" LogFormat.shape,
      .required "client_poll_interval_ms" (.integer .u64),
      .required "max_frame_bytes" (.integer .usize)]

/-- The configuration that a value stands for. -/
def ofJson (json : Json) : Except Json.Mismatch Config := do
  let record ← shape.canonical json
  let format ← LogFormat.ofJson ((record.get? "log_format").getD .null)
  .ok
    { logFilter := ((record.get? "log_filter").bind Json.string?).getD ""
      logFormat := format
      clientPollInterval := ((record.get? "client_poll_interval_ms").bind Json.nat?).getD 0
      maxFrameBytes := ((record.get? "max_frame_bytes").bind Json.nat?).getD 0 }

/-- The configuration as a value. -/
def toJson (config : Config) : Json :=
  .ofPairs [("log_filter", .string config.logFilter),
    ("log_format", .string config.logFormat.name),
    ("client_poll_interval_ms", .ofNat config.clientPollInterval),
    ("max_frame_bytes", .ofNat config.maxFrameBytes)]

/-- The time between two questions; zero stands for the default. -/
def pollInterval (config : Config) : Nat :=
  if config.clientPollInterval = 0 then defaultPollInterval else config.clientPollInterval

/-- The configuration as it is shown to people. -/
def display (config : Config) : String :=
  s!"Config \x7b log_filter: {Text.quoted config.logFilter}, " ++
    s!"log_format: {config.logFormat.display}, " ++
    s!"client_poll_interval_ms: {config.clientPollInterval}, " ++
    s!"max_frame_bytes: {config.maxFrameBytes} \x7d"

end Config

/-- What a session makes of the configuration. -/
structure SessionConfig where
  /-- The time between two questions for the client process. -/
  pollInterval : Nat
  /-- The longest payload admitted. -/
  frameLimit : Nat
  deriving DecidableEq, Repr

namespace SessionConfig

/-- The settings of a session; zero stands for the default limit. -/
def ofConfig (config : Config) : SessionConfig :=
  ⟨config.pollInterval,
    if config.maxFrameBytes = 0 then Frame.defaultLimit else config.maxFrameBytes⟩

/-- A session never polls without a pause, nor refuses every frame. -/
theorem ofConfig_pos (config : Config) :
    0 < (ofConfig config).pollInterval ∧ 0 < (ofConfig config).frameLimit := by
  simp only [ofConfig, Config.pollInterval, Config.defaultPollInterval, Frame.defaultLimit]
  constructor <;> split <;> omega

end SessionConfig

end LspGateway
