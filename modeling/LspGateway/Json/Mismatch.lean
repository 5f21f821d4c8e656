import LspGateway.Json.Printer
import LspGateway.Text.Quoted
import LspGateway.Uri

/-!
# Values of the wrong shape

A mismatch says what a value should have been and what was found instead. Its
wording is fixed here and nowhere else.
-/

namespace LspGateway.Json

/-- The integer types of the protocol. -/
inductive IntegerType where
  /-- Unsigned, 32 bits. -/
  | u32
  /-- Signed, 32 bits. -/
  | i32
  /-- Signed, 64 bits. -/
  | i64
  /-- Unsigned, 64 bits. -/
  | u64
  /-- Unsigned, 64 bits, counting bytes. -/
  | usize
  deriving DecidableEq, Repr

/-- The name of an integer type. -/
def IntegerType.name : IntegerType → String
  | .u32 => "u32"
  | .i32 => "i32"
  | .i64 => "i64"
  | .u64 => "u64"
  | .usize => "usize"

/-- Whether an integer is a value of the type. -/
def IntegerType.holds (type : IntegerType) (value : Int) : Bool :=
  match type with
  | .u32 => 0 ≤ value && value < 0x100000000
  | .i32 => -0x80000000 ≤ value && value < 0x80000000
  | .i64 => -0x8000000000000000 ≤ value && value < 0x8000000000000000
  | .u64 | .usize => 0 ≤ value && value < 0x10000000000000000

/-- A found value, as far as a mismatch tells it. -/
inductive Found where
  /-- The literal `null`. -/
  | null
  /-- A truth value. -/
  | bool (value : Bool)
  /-- A number. -/
  | number (value : Number)
  /-- A text. -/
  | string (value : String)
  /-- An array. -/
  | sequence
  /-- An object. -/
  | map
  deriving DecidableEq, Repr

/-- What a mismatch tells of a value. -/
def found : Json → Found
  | .null => .null
  | .bool value => .bool value
  | .number value => .number value
  | .string value => .string value
  | .array _ => .sequence
  | .object _ => .map

/-- The wording of a found value. -/
def Found.phrase : Found → String
  | .null => "null"
  | .bool value => s!"boolean `{value}`"
  | .number (.integer value) => s!"integer `{value}`"
  | .number (.double bits) => s!"floating point `{String.ofList (doubleChars bits)}`"
  | .string value => "string " ++ Text.quoted value
  | .sequence => "sequence"
  | .map => "map"

/-- What was expected instead of the value found. -/
inductive Expected where
  /-- A text. -/
  | text
  /-- A truth value. -/
  | boolean
  /-- A value of an integer type. -/
  | integer (type : IntegerType)
  /-- An array. -/
  | sequence
  /-- An object. -/
  | map
  /-- `null`. -/
  | unit
  /-- A record of the given name. -/
  | record (name : String)
  /-- A record of the given name, with so many members. -/
  | elements (name : String) (count : Nat)
  /-- A shorter array. -/
  | fewerElements
  /-- A sequence of the given length. -/
  | sequenceOf (count : Nat)
  /-- An array of the given length. -/
  | arrayOf (count : Nat)
  /-- The name of a variant, alone or as the only key of an object. -/
  | variant
  /-- An object with one member. -/
  | singleKey
  deriving DecidableEq, Repr

/-- A count of elements, in words. -/
def countElements (count : Nat) : String :=
  if count == 1 then "1 element" else s!"{count} elements"

/-- The wording of an expectation. -/
def Expected.phrase : Expected → String
  | .text => "a string"
  | .boolean => "a boolean"
  | .integer type => type.name
  | .sequence => "a sequence"
  | .map => "a map"
  | .unit => "unit"
  | .record name => s!"struct {name}"
  | .elements name count => s!"struct {name} with {countElements count}"
  | .fewerElements => "fewer elements in array"
  | .sequenceOf count => s!"{countElements count} in sequence"
  | .arrayOf count => s!"an array of length {count}"
  | .variant => "string or map"
  | .singleKey => "map with a single key"

/-- Why a value has not the shape that was asked for. -/
inductive Mismatch where
  /-- A value of another type. -/
  | wrongType (found : Found) (expected : Expected)
  /-- A value of the right type that is not admitted. -/
  | wrongValue (found : Found) (expected : Expected)
  /-- An array of the wrong length. -/
  | wrongLength (length : Nat) (expected : Expected)
  /-- A member that has to be there is absent. -/
  | missing (name : String)
  /-- The name of no variant. -/
  | unknownVariant (variant : String) (variants : List String)
  /-- A value that fits no alternative. -/
  | noAlternative (name : String)
  /-- A text that is no URI reference. -/
  | uri (fault : Uri.Fault)
  deriving DecidableEq, Repr

/-- The names of variants, in words. -/
def listVariants : List String → String
  | [] => "there are no variants"
  | [only] => s!"expected `{only}`"
  | [first, second] => s!"expected `{first}` or `{second}`"
  | many => "expected one of " ++ ", ".intercalate (many.map fun name => s!"`{name}`")

/-- The wording of a mismatch. -/
def Mismatch.message : Mismatch → String
  | .wrongType found expected => s!"invalid type: {found.phrase}, expected {expected.phrase}"
  | .wrongValue found expected => s!"invalid value: {found.phrase}, expected {expected.phrase}"
  | .wrongLength length expected => s!"invalid length {length}, expected {expected.phrase}"
  | .missing name => s!"missing field `{name}`"
  | .unknownVariant variant variants => s!"unknown variant `{variant}`, {listVariants variants}"
  | .noAlternative name => s!"data did not match any variant of untagged enum {name}"
  | .uri fault => fault.message

end LspGateway.Json
