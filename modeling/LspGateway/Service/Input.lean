import LspGateway.Frame.Reader

/-!
# Input

The input of a session arrives in pieces. Frames are read from the bytes at hand,
and a piece is taken only when they do not suffice, so that what the client sent
before a failure is still read.
-/

namespace LspGateway

/-- What arrives at once. -/
inductive Piece where
  /-- Bytes; none at all stand for the end. -/
  | data (bytes : Bytes)
  /-- A failure of the stream. -/
  | failure (failure : StreamFailure)
  deriving DecidableEq, Repr

/-- The input of a session. -/
structure Input where
  /-- The bytes taken and not yet read. -/
  buffer : Bytes
  /-- The pieces not yet taken. -/
  pieces : List Piece
  /-- Whether nothing arrives after them. -/
  ended : Bool

namespace Input

/-- Nothing has arrived. -/
def nothing : Input := ⟨[], [], false⟩

/-- A piece arrives. -/
def arrive (input : Input) (piece : Piece) : Input :=
  { input with pieces := input.pieces ++ [piece] }

/-- Nothing more arrives. -/
def finish (input : Input) : Input := { input with ended := true }

/-- The bytes that a frame leaves unread. -/
def unread : Frame.Reading → Bytes
  | .frame _ rest | .fault _ rest => rest
  | .finished | .starved => []

/-- Reads a frame of the bytes at hand and of as many pieces as it takes. -/
def readPieces (limit : Nat) (ended : Bool) (buffer : Bytes) :
    List Piece → Frame.Reading × Input
  | [] =>
    match Frame.read limit ended buffer with
    | .starved => (.starved, ⟨buffer, [], ended⟩)
    | reading => (reading, ⟨unread reading, [], ended⟩)
  | piece :: pieces =>
    match Frame.read limit false buffer, piece with
    | .starved, .data [] => (Frame.read limit true buffer, ⟨[], pieces, ended⟩)
    | .starved, .data (byte :: bytes) =>
      readPieces limit ended (buffer ++ byte :: bytes) pieces
    | .starved, .failure failure => (.fault (.stream failure) [], ⟨[], pieces, ended⟩)
    | reading, _ => (reading, ⟨unread reading, piece :: pieces, ended⟩)

/-- Reads the next frame. -/
def read (limit : Nat) (input : Input) : Frame.Reading × Input :=
  readPieces limit input.ended input.buffer input.pieces

/-- A bound for the number of frames: each takes at least one byte. -/
def size (input : Input) : Nat :=
  input.buffer.length + (input.pieces.map fun piece =>
    match piece with
    | .data bytes => bytes.length + 1
    | .failure _ => 1).foldl (· + ·) 1

end Input

end LspGateway
