import LspGateway.Config.Basic
import LspGateway.Text.Unsigned

/-!
# Command line

Every setting has a flag with a long and a short name and one value, given behind
an equals sign or as the next argument; one more flag names a file. Arguments are
read from left to right. A value is looked at when the next flag begins or the
arguments end, so that what is wrong with a flag's name is told before what is
wrong with the value in front of it.
-/

namespace LspGateway

namespace Flags

/-- The flags that take a value. -/
inductive Flag where
  /-- What of the log is written. -/
  | logFilter
  /-- How the log is written. -/
  | logFormat
  /-- The time between two questions for the client process. -/
  | pollInterval
  /-- The longest payload admitted. -/
  | maxFrameBytes
  /-- The file to read settings from. -/
  | configPath
  deriving DecidableEq, Repr

namespace Flag

/-- All flags. -/
def all : List Flag := [.logFilter, .logFormat, .pollInterval, .maxFrameBytes, .configPath]

/-- The long name. -/
def long : Flag → String
  | .logFilter => "log-filter"
  | .logFormat => "log-format"
  | .pollInterval => "client-poll-interval-ms"
  | .maxFrameBytes => "max-frame-bytes"
  | .configPath => "config-path"

/-- The short name, if there is one. -/
def short? : Flag → Option Char
  | .logFilter => some 'l'
  | .logFormat => some 'L'
  | .pollInterval => some 'c'
  | .maxFrameBytes => some 'm'
  | .configPath => none

/-- The name that stands for the value. -/
def placeholder : Flag → String
  | .configPath => "PATH"
  | flag => String.ofList (flag.long.toList.map fun c => if c == '-' then '_' else c.toUpper)

/-- The flag as it is shown to people. -/
def display (flag : Flag) : String := s!"--{flag.long} <{flag.placeholder}>"

end Flag

/-- What can be wrong with the command line; asking for help counts as well, since
nothing can be done then. -/
inductive Fault where
  /-- Help was asked for. -/
  | help
  /-- An argument is not known. -/
  | unknown (argument : String)
  /-- A flag has no value. -/
  | missingValue (flag : Flag)
  /-- A flag has a value that does not fit. -/
  | badValue (flag : Flag) (value reason : String)
  /-- A flag is given twice. -/
  | repeated (flag : Flag)
  /-- The flag for help has a value. -/
  | unwantedValue (value : String)
  deriving DecidableEq, Repr

/-- The first line of the wording of a fault. -/
def Fault.message : Fault → String
  | .help => "CLI parser struct generated by `OrthoConfig` for `Config`"
  | .unknown argument => s!"error: unexpected argument '{argument}' found"
  | .missingValue flag =>
    s!"error: a value is required for '{flag.display}' but none was supplied"
  | .badValue flag value reason =>
    s!"error: invalid value '{value}' for '{flag.display}': {reason}"
  | .repeated flag => s!"error: the argument '{flag.display}' cannot be used multiple times"
  | .unwantedValue value =>
    s!"error: unexpected value '{value}' for '--help' found; no more were expected"

end Flags

/-- The settings that a command line makes. -/
structure Flags where
  /-- What of the log is written. -/
  logFilter : Option String
  /-- How the log is written. -/
  logFormat : Option LogFormat
  /-- The time between two questions for the client process. -/
  pollInterval : Option Nat
  /-- The longest payload admitted. -/
  maxFrameBytes : Option Nat
  /-- The file to read settings from. -/
  configPath : Option String
  deriving DecidableEq, Repr

namespace Flags

/-- No settings. -/
def none : Flags := ⟨.none, .none, .none, .none, .none⟩

/-- Whether a flag was given. -/
def has (flags : Flags) : Flag → Bool
  | .logFilter => flags.logFilter.isSome
  | .logFormat => flags.logFormat.isSome
  | .pollInterval => flags.pollInterval.isSome
  | .maxFrameBytes => flags.maxFrameBytes.isSome
  | .configPath => flags.configPath.isSome

/-- Reads the number of a flag. -/
def number (flag : Flag) (value : String) : Except Fault Nat :=
  (Text.readUnsigned Text.maxWord value).mapError fun fault => .badValue flag value fault.message

/-- Takes up the value of a flag. -/
def set (flags : Flags) (flag : Flag) (value : String) : Except Fault Flags :=
  if flags.has flag then .error (.repeated flag)
  else match flag with
    | .logFilter => .ok { flags with logFilter := value }
    | .logFormat =>
      match LogFormat.parse? value with
      | some format => .ok { flags with logFormat := format }
      | .none => .error (.badValue flag value LogFormat.unknownMessage)
    | .pollInterval =>
      (number flag value).map fun n => { flags with pollInterval := n }
    | .maxFrameBytes =>
      (number flag value).map fun n => { flags with maxFrameBytes := n }
    | .configPath =>
      if value.isEmpty then .error (.missingValue flag)
      else .ok { flags with configPath := value }

/-- A flag whose value has not been looked at. -/
structure Pending where
  /-- The flag. -/
  flag : Flag
  /-- The value, if it has come. -/
  value : Option String

/-- Looks at the value of the flag before. -/
def resolve (flags : Flags) : Option Pending → Except Fault Flags
  | .none => .ok flags
  | some ⟨flag, .none⟩ => .error (.missingValue flag)
  | some ⟨flag, some value⟩ => flags.set flag value

/-- What an argument is. -/
inductive Argument where
  /-- The mark behind which no flags stand. -/
  | mark
  /-- A flag with a long name, and perhaps a value. -/
  | long (name : String) (value : Option String)
  /-- A flag with a short name, and what follows it. -/
  | short (name : Char) (rest : List Char)
  /-- Anything else. -/
  | plain

/-- Splits a text at its first equals sign. -/
def splitEquals (chars : List Char) : String × Option String :=
  let name := chars.takeWhile (· != '=')
  match chars.drop name.length with
  | _ :: value => (String.ofList name, some (String.ofList value))
  | [] => (String.ofList name, .none)

/-- What an argument is. -/
def classify (argument : String) : Argument :=
  match argument.toList with
  | ['-', '-'] => .mark
  | '-' :: '-' :: rest => let (name, value) := splitEquals rest; .long name value
  | '-' :: name :: rest => .short name rest
  | _ => .plain

/-- The value directly behind a short name, an equals sign in front left out. -/
def attached : List Char → Option String
  | [] => .none
  | '=' :: rest | rest => some (String.ofList rest)

/-- Begins a flag: the one before is looked at, and the value if it is there. -/
def start (flags : Flags) (pending : Option Pending) (flag : Flag) (value : Option String) :
    Except Fault (Flags × Option Pending) :=
  match flags.resolve pending, value with
  | .error fault, _ => .error fault
  | .ok flags, .none => .ok (flags, some ⟨flag, .none⟩)
  | .ok flags, some value => (flags.set flag value).map fun flags => (flags, .none)

/-- Asks for help, once the flag before was looked at; a value is refused at once. -/
def askHelp (flags : Flags) (pending : Option Pending) (value : Option String) :
    Except Fault (Flags × Option Pending) :=
  match value, flags.resolve pending with
  | some value, _ => .error (.unwantedValue value)
  | .none, .error fault => .error fault
  | .none, .ok _ => .error .help

/-- Takes up an argument in front of the mark. -/
def take (flags : Flags) (pending : Option Pending) (argument : String) :
    Except Fault (Flags × Option Pending) :=
  match classify argument with
  | .mark => .ok (flags, pending)
  | .long name value =>
    if name == "help" then flags.askHelp pending value
    else match Flag.all.find? fun flag => flag.long == name with
      | some flag => flags.start pending flag value
      | .none => .error (.unknown ("--" ++ name))
  | .short name rest =>
    if name == 'h' then flags.askHelp pending .none
    else match Flag.all.find? fun flag => flag.short? == some name with
      | some flag => flags.start pending flag (attached rest)
      | .none => .error (.unknown ("-" ++ name.toString))
  | .plain =>
    match pending with
    | some ⟨flag, .none⟩ => .ok (flags, some ⟨flag, some argument⟩)
    | _ => .error (.unknown argument)

/-- Reads arguments; behind the mark none is admitted. -/
def parseFrom (flags : Flags) (pending : Option Pending) : List String → Except Fault Flags
  | [] => flags.resolve pending
  | "--" :: rest =>
    match rest with
    | [] => flags.resolve pending
    | argument :: _ => .error (.unknown argument)
  | argument :: rest =>
    match flags.take pending argument with
    | .error fault => .error fault
    | .ok (flags, pending) => parseFrom flags pending rest

/-- Reads the arguments of a command line. -/
def parse (arguments : List String) : Except Fault Flags :=
  parseFrom none .none arguments

/-- Whether every setting is made, and just as it holds otherwise. -/
def saysNothingNew (flags : Flags) : Bool :=
  flags.logFilter == some Config.default.logFilter &&
    flags.logFormat == some Config.default.logFormat &&
    flags.pollInterval == some Config.default.clientPollInterval &&
    flags.maxFrameBytes == some Config.default.maxFrameBytes

/-- The settings as values: only those that were made. Flags that only repeat what holds
otherwise count as none. -/
def toJson (flags : Flags) : Json :=
  if flags.saysNothingNew then .ofPairs []
  else .ofPairs (
    (flags.logFilter.map fun text => ("log_filter", Json.string text)).toList ++
    (flags.logFormat.map fun format => ("log_format", Json.string format.name)).toList ++
    (flags.pollInterval.map fun n => ("client_poll_interval_ms", Json.ofNat n)).toList ++
    (flags.maxFrameBytes.map fun n => ("max_frame_bytes", Json.ofNat n)).toList)

/-- A flag that was given is refused the second time, whatever its value. -/
theorem set_of_has (flags : Flags) (flag : Flag) (value : String) (h : flags.has flag = true) :
    flags.set flag value = .error (.repeated flag) := by
  simp [set, h]

end Flags

end LspGateway
