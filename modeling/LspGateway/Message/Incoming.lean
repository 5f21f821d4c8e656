import LspGateway.Message.Outgoing
import LspGateway.Json.Reader

/-!
# Messages from the client

A payload is classified by which members it has. A method with an identifier is
a request, a method without one a notification, and an identifier or an outcome
without a method a response. An explicit `null` counts as absent except for the
identifier, where it is an error in a request. What is no message is rejected
with the identifier, if one could be read.
-/

namespace LspGateway

/-- A classified message. -/
inductive Incoming where
  /-- A request, to be answered once. -/
  | request (id : RequestId) (method : String) (params : Json)
  /-- A notification, never answered. -/
  | notification (method : String) (params : Json)
  /-- A response to a request of the gateway. -/
  | response (id : Option RequestId) (result : Option Json) (error : Option ResponseError)

/-- Why a JSON value is no message. -/
inductive Defect where
  /-- A member has the wrong type. -/
  | shape (mismatch : Json.Mismatch)
  /-- The identifier is neither an integer nor a text. -/
  | identifier
  /-- The version is absent or another one. -/
  | version
  /-- A request has the identifier `null`. -/
  | nullIdentifier
  /-- There is neither a method nor an outcome. -/
  | noMethod
  deriving DecidableEq, Repr

/-- The wording of a defect. -/
def Defect.message : Defect → String
  | .shape mismatch => mismatch.message
  | .identifier => "invalid request id"
  | .version => "missing or unsupported jsonrpc version"
  | .nullIdentifier => "request id must not be null"
  | .noMethod => "missing method"

/-- Why a payload was rejected. -/
inductive Rejection where
  /-- The payload is no JSON. -/
  | unreadable (fault : Json.Fault)
  /-- The JSON is no message; the identifier is kept if it could be read. -/
  | invalid (id : Option RequestId) (defect : Defect)

namespace Rejection

/-- The wording of a rejection. -/
def message : Rejection → String
  | .unreadable fault => "parse error: " ++ fault.message
  | .invalid _ defect => "invalid request: " ++ defect.message

/-- The identifier that could be read. -/
def id? : Rejection → Option RequestId
  | .unreadable _ => none
  | .invalid id _ => id

/-- The code under which the client is told. -/
def code : Rejection → ErrorCode
  | .unreadable _ => .parseError
  | .invalid _ _ => .invalidRequest

/-- The response that tells the client. -/
def response (rejection : Rejection) : Outgoing :=
  .response rejection.id? (.error (.ofCode rejection.code rejection.message))

end Rejection

/-- The members of a message as they were written. -/
structure Envelope where
  /-- The protocol version. -/
  jsonrpc : Option String
  /-- The identifier; an explicit `null` is kept. -/
  id : Option Json
  /-- The method. -/
  method : Option String
  /-- The parameters. -/
  params : Option Json
  /-- The result. -/
  result : Option Json
  /-- The error. -/
  error : Option ResponseError

namespace Envelope

/-- The values that are envelopes: records whose members may all be absent. -/
def shape : Json.Shape :=
  .record "RawMessage"
    [.defaulted "jsonrpc" (.optional .text) .null,
      .defaulted "id" .any .null,
      .defaulted "method" (.optional .text) .null,
      .defaulted "params" .any .null,
      .defaulted "result" .any .null,
      .defaulted "error" (.optional ResponseError.shape) .null]

/-- The identifier as it stands in the value, by name or as the second element. -/
def writtenId : Json → Option Json
  | .object members => members.lookup "id"
  | .array items => items[1]?
  | _ => none

/-- The envelope that a value stands for. -/
def ofJson (json : Json) : Except Json.Mismatch Envelope := do
  let record ← shape.canonical json
  let error ← match record.get? "error" with
    | some value => (ResponseError.ofJson value).map some
    | none => .ok none
  .ok
    { jsonrpc := (record.get? "jsonrpc").bind Json.string?
      id := writtenId json
      method := (record.get? "method").bind Json.string?
      params := record.get? "params"
      result := record.get? "result"
      error := error }

/-- Classifies an envelope, its identifier having been read. -/
def classify (envelope : Envelope) (id : Option RequestId) : Except Rejection Incoming :=
  if envelope.jsonrpc != some Outgoing.version then .error (.invalid id .version)
  else match envelope.method, envelope.id, id with
    | some method, some _, some id =>
      .ok (.request id method (Json.ofOption envelope.params))
    | some _, some _, none => .error (.invalid none .nullIdentifier)
    | some method, none, _ => .ok (.notification method (Json.ofOption envelope.params))
    | none, none, _ =>
      if envelope.result.isNone && envelope.error.isNone then .error (.invalid none .noMethod)
      else .ok (.response none envelope.result envelope.error)
    | none, some _, id => .ok (.response id envelope.result envelope.error)

end Envelope

namespace Incoming

/-- The identifier that a member stands for: none when absent or `null`. -/
def identifier : Option Json → Except Rejection (Option RequestId)
  | none | some .null => .ok none
  | some json =>
    match RequestId.ofJson json with
    | .ok id => .ok (some id)
    | .error _ => .error (.invalid none .identifier)

/-- Classifies a JSON value. -/
def ofJson (json : Json) : Except Rejection Incoming :=
  match Envelope.ofJson json with
  | .error mismatch => .error (.invalid none (.shape mismatch))
  | .ok envelope =>
    match identifier envelope.id with
    | .error rejection => .error rejection
    | .ok id => envelope.classify id

/-- Classifies the payload of a frame. -/
def decode (payload : Bytes) : Except Rejection Incoming :=
  match Json.read payload with
  | .error fault => .error (.unreadable fault)
  | .ok json => ofJson json

end Incoming

end LspGateway
