import LspGateway.Text.Utf8

/-!
# Transport faults

A fault of the byte streams between client and gateway. Every one of them ends
the session; only a stream that ends inside a frame counts as the client having
left.
-/

namespace LspGateway

/-- The kinds of failure that a stream reports. -/
inductive FailureKind where
  /-- The stream ended early. -/
  | unexpectedEnd
  /-- The bytes are not what they should be. -/
  | invalidData
  /-- The reader of a written stream is gone. -/
  | brokenPipe
  /-- The peer dropped the connection. -/
  | connectionReset
  /-- Anything else. -/
  | other
  deriving DecidableEq, Repr

/-- A failure that a stream reports by itself. -/
structure StreamFailure where
  /-- Its kind. -/
  kind : FailureKind
  /-- Its wording. -/
  text : String
  deriving DecidableEq, Repr

namespace Frame

/-- Why a frame could not be read or written. -/
inductive Fault where
  /-- The stream ended between header lines. -/
  | endInHeader
  /-- The stream ended inside the payload. -/
  | endInPayload
  /-- A header line is not UTF-8. -/
  | notText (fault : Utf8.Fault)
  /-- The stream failed. -/
  | stream (failure : StreamFailure)
  /-- No header gave the length. -/
  | missingLength
  /-- A header line cannot be read, or the header is too long. -/
  | badHeader (line : String)
  /-- The announced payload is longer than admitted. -/
  | tooLarge (length limit : Nat)
  deriving DecidableEq, Repr

/-- The failure behind a fault, for the faults that are failures of a stream. -/
def Fault.failure? : Fault → Option StreamFailure
  | .endInHeader => some ⟨.unexpectedEnd, "connection closed while reading headers"⟩
  | .endInPayload => some ⟨.unexpectedEnd, "early eof"⟩
  | .notText fault => some ⟨.invalidData, fault.message⟩
  | .stream failure => some failure
  | .missingLength | .badHeader _ | .tooLarge _ _ => none

/-- Whether the client left in the middle of a frame. -/
def Fault.isUnexpectedEnd (fault : Fault) : Bool :=
  fault.failure?.any fun failure => failure.kind == .unexpectedEnd

/-- The wording of a fault. -/
def Fault.message (fault : Fault) : String :=
  match fault.failure?, fault with
  | some failure, _ => "I/O error: " ++ failure.text
  | none, .badHeader line => "invalid header: " ++ line
  | none, .tooLarge length limit => s!"frame of {length} bytes exceeds the {limit} byte limit"
  | none, _ => "missing Content-Length header"

end Frame

end LspGateway
