import LspGateway.Daemon.Attendance
import LspGateway.Engine.Placeholder

/-!
# The command line

The gateway as a program: it serves one client at its standard input and output and
writes its log to standard error. Everything that is decided is decided elsewhere;
here bytes are read and written, the clock is looked at, and processes are looked for.
-/

namespace LspGateway.CommandLine

open Daemon Engine

/-- Looks up a path. -/
def look (path : String) : IO Config.Lookup := do
  try
    let bytes ← IO.FS.readBinFile path
    let place ← IO.FS.realPath path
    return ((String.fromUTF8? bytes).map (Config.Lookup.text place.toString)).getD .unreadable
  catch
    | .noFileOrDirectory _ _ _ => return .absent
    | _ => return .unreadable

/-- The variables of the environment. -/
def environment : IO (List (String × String)) := do
  let block := match ← look "/proc/self/environ" with
    | .text _ text => text
    | _ => ""
  return (block.splitOn "\x00").filterMap fun setting =>
    match setting.splitOn "=" with
    | name :: value@(_ :: _) => some (name, "=".intercalate value)
    | _ => none

/-- The processes that there are. -/
def processes : IO (List Nat) := do
  let entries ← (← IO.FS.realPath "/proc").readDir
  return entries.toList.filterMap fun entry => entry.fileName.toNat?

/-- Writes lines to the log. -/
def writeLog (lines : List Log.Line) : IO Unit :=
  lines.forM fun line => IO.eprintln <|
    match line with
    | .object json => json.compact
    | .text text => text

/-- Writes what is to be written to the client and to the log. -/
def deliver (attendance : Attendance Documents Empty) : IO (Attendance Documents Empty) := do
  writeLog attendance.program.log
  let bytes := attendance.service.sink.bytes
  unless bytes.isEmpty do
    let stdout ← IO.getStdout
    stdout.write (ByteArray.mk bytes.toArray)
    stdout.flush
  return attendance.forget

/-! ## Input -/

/-- What has come in and was not looked at. -/
structure Inbox where
  /-- The bytes. -/
  bytes : List UInt8
  /-- How the input ended, if it did. -/
  ending : Option (Service.Command Documents)
  /-- Who waits for more. -/
  waiter : Option (IO.Promise Unit)

namespace Inbox

/-- An inbox in which nothing lies. -/
def empty : Inbox := ⟨[], none, none⟩

/-- Puts something into an inbox and tells the one who waits for it. -/
def post (inbox : IO.Ref Inbox) (change : Inbox → Inbox) : BaseIO Unit := do
  let waiter ← inbox.modifyGet fun content =>
    (content.waiter, { change content with waiter := none })
  if let some waiter := waiter then waiter.resolve ()

/-- Fills an inbox with what the client sends, byte by byte, so that nothing is held
back until more comes. -/
partial def fill (inbox : IO.Ref Inbox) (stream : IO.FS.Stream) : BaseIO Unit := do
  match ← (stream.read 1).toBaseIO with
  | .error error =>
    post inbox fun content =>
      { content with ending := some (.arrive (.failure ⟨.other, toString error⟩)) }
  | .ok bytes =>
    match bytes.toList with
    | [] => post inbox fun content => { content with ending := some .endInput }
    | bytes => do
      post inbox fun content => { content with bytes := bytes ++ content.bytes }
      fill inbox stream

/-- Takes out what has come in, as commands for the service. -/
def take (inbox : IO.Ref Inbox) : BaseIO (List (Service.Command Documents)) := do
  let content ← inbox.modifyGet fun content => (content, { content with bytes := [], ending := none })
  let data := if content.bytes.isEmpty then []
    else [Service.Command.arrive (.data content.bytes.reverse)]
  return data ++ content.ending.toList

/-- Waits until something has come in. -/
def wait (inbox : IO.Ref Inbox) : BaseIO Unit := do
  let promise ← IO.Promise.new
  let waits ← inbox.modifyGet fun content =>
    if content.bytes.isEmpty && content.ending.isNone then
      (true, { content with waiter := some promise })
    else (false, content)
  if waits then discard <| IO.wait promise.result?

end Inbox

/-! ## Serving -/

/-- How long the program sleeps while a process is watched, in milliseconds. -/
def nap : UInt32 := 50

/-- Serves a client until the service is over, given the time up to which everything
was done. -/
partial def attend (attendance : Attendance Documents Empty) (inbox : IO.Ref Inbox)
    (time : Nat) : IO (Attendance Documents Empty) := do
  let attendance ← deliver attendance
  if attendance.service.outcome?.isSome then return attendance
  let arrived ← Inbox.take inbox
  if arrived.isEmpty then
    if attendance.watched.isEmpty then Inbox.wait inbox else IO.sleep nap
  let now ← IO.monoMsNow
  let commands := .probe (Supervisor.probe (← processes).contains) :: .advance (now - time) ::
    arrived
  attend (commands.foldl (·.run placeholder ·) attendance) inbox now

/-- Starts, serves a client and yields the exit code. -/
def serve (arguments : List String) : IO Nat := do
  let surroundings := ⟨arguments, ← environment, (← IO.currentDir).toString⟩
  let start := Program.fresh.start (← Config.load look surroundings)
  writeLog start.program.log
  match start.result with
  | .error fault =>
    IO.eprintln (complaint fault)
    return 1
  | .ok config =>
    let attendance := Attendance.begin { start.program with log := [] } config Documents.empty
      (Supervisor.probe fun _ => false) Input.nothing
    let inbox ← IO.mkRef Inbox.empty
    discard <| (Inbox.fill inbox (← IO.getStdin)).asTask Task.Priority.dedicated
    let attendance ← attend (attendance.settle placeholder) inbox (← IO.monoMsNow)
    let attendance ← deliver attendance.finish
    return attendance.exitCode

end LspGateway.CommandLine

/-- Serves one client. -/
def main (arguments : List String) : IO UInt32 := do
  return (← LspGateway.CommandLine.serve arguments).toUInt32
