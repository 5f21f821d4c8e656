import LspGateway.Text.Utf8

/-!
# JSON values

Objects keep their members sorted by key, one member for each key. A number is
an exact integer or a double; the readers produce integers from `-2 ^ 63` to
`2 ^ 64 - 1` and doubles for everything else.
-/

namespace LspGateway

/-- A number: an integer, or a double given by its bits. -/
inductive Json.Number where
  /-- An exact integer. -/
  | integer (value : Int)
  /-- A double; only finite ones are ever read. -/
  | double (bits : UInt64)
  deriving DecidableEq, Repr

/-- A JSON value. -/
inductive Json where
  /-- The literal `null`. -/
  | null
  /-- A truth value. -/
  | bool (value : Bool)
  /-- A number. -/
  | number (value : Json.Number)
  /-- A text. -/
  | string (value : String)
  /-- A list of values. -/
  | array (items : List Json)
  /-- Members, sorted by key. -/
  | object (members : List (String × Json))
  deriving Repr, Inhabited

namespace Json

/-- The members of an object, in the order of their keys. -/
abbrev Members := List (String × Json)

/-- An integer value. -/
def ofInt (value : Int) : Json :=
  .number (.integer value)

/-- A natural number as a value. -/
def ofNat (value : Nat) : Json :=
  .number (.integer value)

/-- Puts a member at its place, replacing one with the same key. -/
def Members.insert (key : String) (value : Json) : Members → Members
  | [] => [(key, value)]
  | (other, old) :: rest =>
    if key == other then (key, value) :: rest
    else if key < other then (key, value) :: (other, old) :: rest
    else (other, old) :: insert key value rest

/-- The members of a list of pairs, sorted; the last pair of a key wins. -/
def Members.ofPairs (pairs : List (String × Json)) : Members :=
  pairs.foldl (fun members (key, value) => insert key value members) []

/-- The value of a key, if there is a member of that name. -/
def Members.get? (members : Members) (key : String) : Option Json :=
  List.lookup key members

/-- An object with the given members, in any order. -/
def ofPairs (pairs : List (String × Json)) : Json :=
  .object (Members.ofPairs pairs)

/-- The member of an object, `none` for other values. -/
def get? (json : Json) (key : String) : Option Json :=
  match json with
  | .object members => Members.get? members key
  | _ => none

/-- The text of a string value. -/
def string? : Json → Option String
  | .string value => some value
  | _ => none

/-- The integer of an integral number. -/
def int? : Json → Option Int
  | .number (.integer value) => some value
  | _ => none

/-- The number of an integral number that is not negative. -/
def nat? : Json → Option Nat
  | .number (.integer (.ofNat value)) => some value
  | _ => none

/-- The truth value. -/
def bool? : Json → Option Bool
  | .bool value => some value
  | _ => none

/-- The items of an array. -/
def array? : Json → Option (List Json)
  | .array items => some items
  | _ => none

/-- The members of an object. -/
def object? : Json → Option Members
  | .object members => some members
  | _ => none

/-- Whether the value is `null`. -/
def isNull : Json → Bool
  | .null => true
  | _ => false

/-- `null` for nothing, the value otherwise. -/
def ofOption : Option Json → Json
  | none => .null
  | some value => value

end Json

end LspGateway
