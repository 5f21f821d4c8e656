import LspGateway.Json.Mismatch
import LspGateway.Json.Reader

/-!
# Values that cannot be decoded

A value is refused either because its text is no JSON or because the value is
not what was asked for. A mismatch that is found while a text is read also
tells the place that reading had reached.
-/

namespace LspGateway.Json

/-- Why a value could not be decoded. -/
inductive Undecodable where
  /-- The text is no JSON. -/
  | malformed (fault : Fault)
  /-- The value is of another shape, found at the place if it came from a text. -/
  | mismatch (mismatch : Mismatch) (place : Option Position)
  deriving DecidableEq, Repr

/-- The wording of a refusal. -/
def Undecodable.message : Undecodable → String
  | .malformed fault => fault.message
  | .mismatch reason none => reason.message
  | .mismatch reason (some place) => reason.message ++ place.suffix

namespace Reader

/-- Why reading an integer stopped: the text is malformed, or a value of another
kind stands there, told before its content where that is a container. -/
abbrev IntegerStop := Stop ⊕ (Mismatch × Bytes)

/-- An integer of a type as the value of a number, else the mismatch, told
behind the number. -/
def ofNumber (type : IntegerType) : Step Number → Except IntegerStop (Int × Bytes)
  | .error stop => .error (.inl stop)
  | .ok (.integer value, rest) =>
    if type.holds value then .ok (value, rest)
    else .error (.inr (.wrongValue (.number (.integer value)) (.integer type), rest))
  | .ok (number, rest) => .error (.inr (.wrongType (.number number) (.integer type), rest))

/-- The mismatch of a value that is no number, told behind it. -/
def notNumber (type : IntegerType) : Step Json → Except IntegerStop (Int × Bytes)
  | .error stop => .error (.inl stop)
  | .ok (json, rest) => .error (.inr (.wrongType json.found (.integer type), rest))

/-- Reads an integer of a type. -/
def integer (type : IntegerType) (bytes : Bytes) : Except IntegerStop (Int × Bytes) :=
  match skipSpace bytes with
  | [] => .error (.inl ⟨.endInValue, []⟩)
  | 0x2D :: rest => ofNumber type (number true rest)
  | 0x5B :: rest => .error (.inr (.wrongType .sequence (.integer type), 0x5B :: rest))
  | 0x7B :: rest => .error (.inr (.wrongType .map (.integer type), 0x7B :: rest))
  | byte :: rest =>
    if isDigit byte then ofNumber type (number false (byte :: rest))
    else notNumber type (value 0 (byte :: rest))

end Reader

/-- Reads a text that holds exactly one integer of a type. -/
def readInteger (type : IntegerType) (text : Bytes) : Except Undecodable Int :=
  match Reader.integer type text with
  | .error (.inl stop) => .error (.malformed (stop.fault text))
  | .error (.inr (mismatch, unread)) =>
    .error (.mismatch mismatch
      (some (Position.after (text.take (text.length - unread.length)))))
  | .ok result =>
    match Reader.atEnd result with
    | .error stop => .error (.malformed (stop.fault text))
    | .ok value => .ok value

end LspGateway.Json
