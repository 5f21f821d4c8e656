import LspGateway.Message.Outgoing
import LspGateway.Text.Quoted

/-!
# Messages as they are shown in the log

The log shows a message that was dropped by its structure: constructors with
their parts, texts quoted. This is for people only and is never read back.
-/

namespace LspGateway

/-- A constructor with one part. -/
def Text.applied (constructor part : String) : String :=
  constructor ++ "(" ++ part ++ ")"

/-- A record with named parts. -/
def Text.recordOf (constructor : String) (parts : List (String × String)) : String :=
  constructor ++ " \x7b " ++
    ", ".intercalate (parts.map fun (name, part) => name ++ ": " ++ part) ++ " \x7d"

/-- A part that may be absent. -/
def Text.optionally (part : Option String) : String :=
  match part with
  | none => "None"
  | some text => applied "Some" text

mutual

/-- The structure of a JSON value. -/
def Json.display : Json → String
  | .null => "Null"
  | .bool value => Text.applied "Bool" (if value then "true" else "false")
  | .number value => Text.applied "Number" (String.ofList value.chars)
  | .string value => Text.applied "String" (Text.quoted value)
  | .array items => "Array [" ++ ", ".intercalate (displayItems items) ++ "]"
  | .object members => "Object \x7b" ++ ", ".intercalate (displayMembers members) ++ "\x7d"

/-- The structures of the items of an array. -/
def Json.displayItems : List Json → List String
  | [] => []
  | item :: rest => item.display :: displayItems rest

/-- The structures of the members of an object. -/
def Json.displayMembers : List (String × Json) → List String
  | [] => []
  | (key, value) :: rest => (Text.quoted key ++ ": " ++ value.display) :: displayMembers rest

end

/-- The structure of an identifier. -/
def RequestId.shown : RequestId → String
  | .number value => Text.applied "Number" (toString value)
  | .text value => Text.applied "String" (Text.quoted value)

/-- The structure of an identifier that may be absent. -/
def RequestId.displayOption (id : Option RequestId) : String :=
  Text.optionally (id.map shown)

/-- The structure of the error of a response. -/
def ResponseError.display (error : ResponseError) : String :=
  Text.recordOf "ResponseError" [("code", toString error.code),
    ("message", Text.quoted error.message), ("data", Text.optionally (error.data.map Json.display))]

/-- The structure of what a response says. -/
def Answer.display : Answer → String
  | .result value => Text.applied "Result" value.display
  | .error e => Text.applied "Error" e.display

/-- The structure of a message. -/
def Outgoing.display : Outgoing → String
  | .response id answer =>
    Text.applied "Response" (Text.recordOf "Response" [("jsonrpc", Text.quoted version),
      ("id", RequestId.displayOption id), ("outcome", answer.display)])
  | .notification method params =>
    Text.applied "Notification" (Text.recordOf "Notification" [("jsonrpc", Text.quoted version),
      ("method", Text.quoted method), ("params", Text.optionally (params.map Json.display))])

end LspGateway
