import LspGateway.Json.Shape

/-!
# Request identifiers

A request is named by an integer of 64 bits or by a text. The two kinds never
coincide: `1` and `"1"` name different requests.
-/

namespace LspGateway

/-- The name that a client gives to a request. -/
inductive RequestId where
  /-- An integer between `-2 ^ 63` and `2 ^ 63 - 1`. -/
  | number (value : Int)
  /-- Any text. -/
  | text (value : String)
  deriving DecidableEq, Repr

namespace RequestId

/-- The values that name a request. -/
def shape : Json.Shape :=
  .oneOf "RequestId" [.integer .i64, .text]

/-- The identifier that a value stands for. -/
def ofJson (json : Json) : Except Json.Mismatch RequestId :=
  match json with
  | .number (.integer value) =>
    if Json.IntegerType.i64.holds value then .ok (.number value)
    else .error (.noAlternative "RequestId")
  | .string value => .ok (.text value)
  | _ => .error (.noAlternative "RequestId")

/-- The identifier as a value. -/
def toJson : RequestId → Json
  | .number value => .ofInt value
  | .text value => .string value

/-- The identifier as it is shown to people. -/
def display : RequestId → String
  | .number value => toString value
  | .text value => value

/-- What is written is read back. -/
theorem ofJson_toJson_text (value : String) : ofJson (toJson (.text value)) = .ok (.text value) :=
  rfl

/-- Integers of 64 bits are read back. -/
theorem ofJson_toJson_number {value : Int} (h : Json.IntegerType.i64.holds value = true) :
    ofJson (toJson (.number value)) = .ok (.number value) := by
  simp [ofJson, toJson, Json.ofInt, h]

end RequestId

end LspGateway
