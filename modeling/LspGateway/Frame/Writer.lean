import LspGateway.Frame.Fault

/-!
# Writing frames

A frame is written as its header, its payload and a flush. The stream it goes
to may take only part of what it is offered, so each write is repeated until
all is taken, and it may fail for good at some length.
-/

namespace LspGateway

/-- A written stream: what it holds, and how it treats further writes. -/
structure Sink where
  /-- The bytes taken so far, the last one first. -/
  reversed : Bytes
  /-- How many bytes it holds. -/
  held : Nat
  /-- How many bytes it takes at most in one write. -/
  chunk : Option Nat
  /-- How many bytes it holds at most. -/
  limit : Option Nat
  /-- How every flush fails, if it does. -/
  flushFailure : Option StreamFailure
  /-- How the shutdown fails, if it does. -/
  shutdownFailure : Option StreamFailure
  /-- Whether it was shut down. -/
  closed : Bool

namespace Sink

/-- A stream that takes everything. -/
def unlimited : Sink := ⟨[], 0, none, none, none, none, false⟩

/-- The bytes taken, in order. -/
def bytes (sink : Sink) : Bytes :=
  sink.reversed.reverse

/-- How many bytes of an offer of `size` the next write takes. -/
def accepts (sink : Sink) (size : Nat) : Nat :=
  let offered := match sink.chunk with
    | some chunk => min chunk size
    | none => size
  match sink.limit with
  | some limit => min offered (limit - sink.held)
  | none => offered

/-- Takes the first `count` bytes of an offer. -/
def take (sink : Sink) (count : Nat) (offer : Bytes) : Sink :=
  { sink with
    reversed := (offer.take count).reverse ++ sink.reversed
    held := sink.held + (offer.take count).length }

/-- The failure of a stream that is full. -/
def full : StreamFailure := ⟨.brokenPipe, "sink full"⟩

/-- Repeats writes until all bytes are taken. The first argument bounds the
number of writes. -/
def writeLoop : Nat → Sink → Bytes → Sink × Except StreamFailure Unit
  | _, sink, [] => (sink, .ok ())
  | 0, sink, _ :: _ => (sink, .error full)
  | fuel + 1, sink, offer@(_ :: _) =>
    match sink.accepts offer.length with
    | 0 => (sink, .error full)
    | count => writeLoop fuel (sink.take count offer) (offer.drop count)

/-- Writes all bytes, or as many as the stream takes. -/
def writeAll (sink : Sink) (offer : Bytes) : Sink × Except StreamFailure Unit :=
  writeLoop offer.length sink offer

/-- Flushes the stream. -/
def flush (sink : Sink) : Except StreamFailure Unit :=
  match sink.flushFailure with
  | some failure => .error failure
  | none => .ok ()

/-- Shuts the stream down; it counts as shut down even if that fails. -/
def shutdown (sink : Sink) : Sink × Except Frame.Fault Unit :=
  ({ sink with closed := true }, match sink.shutdownFailure with
    | some failure => .error (.stream failure)
    | none => .ok ())

end Sink

namespace Frame

/-- The header of a payload. -/
def header (payload : Bytes) : Bytes :=
  Bytes.ofString s!"Content-Length: {payload.length}\r\n\r\n"

/-- The bytes of a frame. -/
def encode (payload : Bytes) : Bytes :=
  header payload ++ payload

/-- Writes a frame: the header, the payload, then a flush. -/
def write (sink : Sink) (payload : Bytes) : Sink × Except Fault Unit :=
  match sink.writeAll (header payload) with
  | (sink, .error failure) => (sink, .error (.stream failure))
  | (sink, .ok ()) =>
    match sink.writeAll payload with
    | (sink, .error failure) => (sink, .error (.stream failure))
    | (sink, .ok ()) =>
      match sink.flush with
      | .error failure => (sink, .error (.stream failure))
      | .ok () => (sink, .ok ())

end Frame

end LspGateway
