import LspGateway.Message.Id
import LspGateway.Json.Printer

/-!
# Messages to the client

The gateway answers requests and sends notifications. A response carries either
a result or an error, never both, and a notification has no identifier: the
types leave no other possibility. The members of a message are written in a
fixed order, which is part of the format.
-/

namespace LspGateway

/-- The error codes that the gateway uses. -/
inductive ErrorCode where
  /-- The text received is no JSON. -/
  | parseError
  /-- The JSON received is no request, or not one that is admitted now. -/
  | invalidRequest
  /-- There is no such method. -/
  | methodNotFound
  /-- The parameters do not fit the method. -/
  | invalidParams
  /-- Handling the message failed. -/
  | internalError
  /-- The handshake is not complete. -/
  | serverNotInitialized
  /-- The request was cancelled. -/
  | requestCancelled
  deriving DecidableEq, Repr

/-- The number that stands for a code on the wire. -/
def ErrorCode.value : ErrorCode → Int
  | .parseError => -32700
  | .invalidRequest => -32600
  | .methodNotFound => -32601
  | .invalidParams => -32602
  | .internalError => -32603
  | .serverNotInitialized => -32002
  | .requestCancelled => -32800

namespace ErrorCode

/-- All codes. -/
def all : List ErrorCode :=
  [.parseError, .invalidRequest, .methodNotFound, .invalidParams, .internalError,
    .serverNotInitialized, .requestCancelled]

/-- The name of a code. -/
def name : ErrorCode → String
  | .parseError => "ParseError"
  | .invalidRequest => "InvalidRequest"
  | .methodNotFound => "MethodNotFound"
  | .invalidParams => "InvalidParams"
  | .internalError => "InternalError"
  | .serverNotInitialized => "ServerNotInitialized"
  | .requestCancelled => "RequestCancelled"

/-- The code of a name. -/
def ofName? (name : String) : Option ErrorCode :=
  all.find? fun code => code.name == name

/-- Names are read back. -/
theorem ofName?_name (code : ErrorCode) : ofName? code.name = some code := by
  cases code <;> decide +kernel

end ErrorCode

/-- Codes are told apart on the wire. -/
theorem ErrorCode.value_injective {a b : ErrorCode} (h : a.value = b.value) : a = b := by
  cases a <;> cases b <;> first | rfl | (exact absurd h (by decide))

/-- The error of a response. -/
structure ResponseError where
  /-- The code. -/
  code : Int
  /-- A message for people. -/
  message : String
  /-- Further data. -/
  data : Option Json

namespace ResponseError

/-- The error of a known code, without further data. -/
def ofCode (code : ErrorCode) (message : String) : ResponseError :=
  ⟨code.value, message, none⟩

/-- The members, in the order in which they are written. -/
def toJson (error : ResponseError) : Json :=
  .object ([("code", .ofInt error.code), ("message", .string error.message)] ++
    (error.data.map fun data => ("data", data)).toList)

/-- The values that stand for an error: a record that may lack its data. -/
def shape : Json.Shape :=
  .record "ResponseError"
    [.required "code" (.integer .i64), .required "message" .text, .defaulted "data" .any .null]

/-- The error that a value stands for. -/
def ofJson (json : Json) : Except Json.Mismatch ResponseError := do
  let record ← shape.canonical json
  match record.get? "code", record.get? "message" with
  | some (.number (.integer code)), some (.string message) => .ok ⟨code, message, record.get? "data"⟩
  | _, _ => .error (.missing "code")

end ResponseError

/-- What a response says. -/
inductive Answer where
  /-- The result, which may be `null`. -/
  | result (value : Json)
  /-- The error. -/
  | error (error : ResponseError)

/-- A message to the client. -/
inductive Outgoing where
  /-- The answer to a request; without identifier when none could be read. -/
  | response (id : Option RequestId) (answer : Answer)
  /-- A notification. -/
  | notification (method : String) (params : Option Json)

namespace Outgoing

/-- The protocol version that every message states. -/
def version : String := "2.0"

/-- The members of a message, in the order in which they are written. -/
def members : Outgoing → List (String × Json)
  | .response id answer =>
    [("jsonrpc", .string version),
      ("id", Json.ofOption (id.map RequestId.toJson)),
      match answer with
      | .result value => ("result", value)
      | .error error => ("error", error.toJson)]
  | .notification method params =>
    [("jsonrpc", .string version), ("method", .string method)] ++
      (params.map fun value => ("params", value)).toList

/-- The text of a message. -/
def text (message : Outgoing) : String :=
  Json.compactInOrder message.members

/-- The bytes of a message. -/
def encode (message : Outgoing) : Bytes :=
  Bytes.ofString message.text

/-- The identifier that a message answers. -/
def id? : Outgoing → Option RequestId
  | .response id _ => id
  | .notification _ _ => none

/-- Whether the message answers a request. -/
def isResponse : Outgoing → Bool
  | .response _ _ => true
  | .notification _ _ => false

end Outgoing

end LspGateway
