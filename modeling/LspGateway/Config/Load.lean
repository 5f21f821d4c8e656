import LspGateway.Config.Files
import LspGateway.Config.Flags
import LspGateway.Config.Variables

/-!
# Loading the configuration

The configuration is made of four layers: what holds otherwise, a file, the
environment and the flags; for each setting the last layer that makes it wins.
Everything that is wrong is told together: the flags, the files, and whatever the
layers, as far as they could be had, do not add up to.
-/

namespace LspGateway.Config

/-- One thing that is wrong. -/
inductive LoadFault where
  /-- The command line. -/
  | flags (fault : Flags.Fault)
  /-- A file. -/
  | file (fault : FileFault)
  /-- The settings together. -/
  | settings (mismatch : Json.Mismatch)

/-- The wording of a fault. -/
def LoadFault.message : LoadFault → String
  | .flags fault => "Failed to parse command-line arguments: " ++ fault.message
  | .file fault => fault.message
  | .settings mismatch => "Failed to merge CLI with configuration: " ++ mismatch.message

/-- Why there is no configuration: at least one thing is wrong. -/
structure LoadError where
  /-- The first thing that is wrong. -/
  first : LoadFault
  /-- The others. -/
  others : List LoadFault

/-- The wording of an error. Of faults on the command line, and of several faults, it is
the first line. -/
def LoadError.message (error : LoadError) : String :=
  if error.others.isEmpty then error.first.message else "multiple configuration errors:"

/-- What surrounds the program. -/
structure Surroundings where
  /-- The arguments of the command line. -/
  arguments : List String
  /-- The variables of the environment. -/
  environment : List (String × String)
  /-- The directory that one is in. -/
  current : String

/-- The configuration that layers make, the last one winning. -/
def ofLayers (layers : List Json) : Except Json.Mismatch Config :=
  ofJson (Json.overlayAll (default.toJson :: layers))

/-- The configuration, or all that is wrong. -/
def settle (faults : List LoadFault) (config : Except Json.Mismatch Config) :
    Except LoadError Config :=
  match faults, config with
  | [], .ok config => .ok config
  | [], .error mismatch => .error ⟨.settings mismatch, []⟩
  | first :: others, .ok _ => .error ⟨first, others⟩
  | first :: others, .error mismatch => .error ⟨first, others ++ [.settings mismatch]⟩

/-- Loads the configuration. -/
def load {m : Type → Type} [Monad m] (look : String → m Lookup)
    (surroundings : Surroundings) : m (Except LoadError Config) := do
  let parsed := Flags.parse surroundings.arguments
  let flags := parsed.toOption.getD Flags.none
  let (settings, fileFaults) ← searchFiles look flags.configPath
    (usualFiles surroundings.environment surroundings.current)
  let faults := (match parsed with
    | .ok _ => []
    | .error fault => [LoadFault.flags fault]) ++ fileFaults.map .file
  return settle faults (ofLayers (settings.toList ++
    [Variables.toJson surroundings.environment, flags.toJson]))

/-- A configuration is loaded only if nothing is wrong. -/
theorem settle_eq_ok_iff (faults : List LoadFault) (config : Except Json.Mismatch Config)
    (c : Config) : settle faults config = .ok c ↔ faults = [] ∧ config = .ok c := by
  cases faults <;> cases config <;> simp [settle]

end LspGateway.Config
