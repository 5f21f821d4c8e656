import LspGateway.Json.Mismatch

/-!
# Shapes of JSON values

A shape describes the values that a part of the protocol admits. Checking a
value against a shape yields the value in its canonical form, with unknown
members left out and defaults put in, or the first mismatch.

Members of a record are checked in the order of their keys in the object, then
absent members are looked for in the order of the declaration. A record may
also be written as an array of its members in declaration order, unless it has
parts: those take the members that the record itself does not name.
-/

namespace LspGateway.Json

/-- What stands for a member that is absent. -/
inductive Absent where
  /-- The member has to be there. -/
  | missing
  /-- `null`, but only in an object: an array holds every element. -/
  | null
  /-- A default value. -/
  | default (value : Json)

/-- A member of a record. -/
structure Field (σ : Type) where
  /-- The key. -/
  name : String
  /-- The shape of the value. -/
  shape : σ
  /-- What stands for an absent member. -/
  absent : Absent
  /-- Whether a `null` is left out of the canonical form. -/
  omitNull : Bool

/-- One of several records that are told apart by a tag. -/
structure Case (σ : Type) where
  /-- The tag. -/
  name : String
  /-- The members beside the tag. -/
  fields : List (Field σ)

/-- A part of a record, spread over the members that the record leaves. -/
inductive Spread (σ : Type) where
  /-- The members of another record. -/
  | record (name : String) (fields : List (Field σ))
  /-- All members that are left, each of the same shape. -/
  | remaining (shape : σ)

/-- A description of the values that are admitted. -/
inductive Shape where
  /-- Any value. -/
  | any
  /-- A truth value. -/
  | boolean
  /-- A text. -/
  | text
  /-- An integer of a type. -/
  | integer (type : IntegerType)
  /-- A URI reference. -/
  | uri
  /-- `null` or a value of the shape. -/
  | optional (shape : Shape)
  /-- An array of values of the shape. -/
  | list (shape : Shape)
  /-- An array of as many values as there are shapes. -/
  | tuple (shapes : List Shape)
  /-- An object with values of the shape under any keys. -/
  | dictionary (uriKeys : Bool) (shape : Shape)
  /-- A record. -/
  | record (name : String) (fields : List (Field Shape))
  /-- A record with parts. -/
  | composite (name : String) (fields : List (Field Shape)) (parts : List (Spread Shape))
  /-- A record among several, told by the tag under `key`. -/
  | tagged (key : String) (cases : List (Case Shape))
  /-- A value of the first shape that fits. -/
  | oneOf (name : String) (alternatives : List Shape)
  /-- The name of one of the variants. -/
  | variant (variants : List String)

namespace Field

/-- A member that has to be there. -/
def required (name : String) (shape : Shape) : Field Shape :=
  ⟨name, shape, .missing, false⟩

/-- A member that may be absent or `null` and is then left out. -/
def maybe (name : String) (shape : Shape) : Field Shape :=
  ⟨name, .optional shape, .null, true⟩

/-- A member that may be absent or `null` and is then written `null`. -/
def nullable (name : String) (shape : Shape) : Field Shape :=
  ⟨name, .optional shape, .null, false⟩

/-- A member that may be absent even from an array, where a default stands for
it; a `null` is left out. -/
def defaulted (name : String) (shape : Shape) (value : Json) : Field Shape :=
  ⟨name, shape, .default value, true⟩

end Field

/-! ## Records, given checks for their members -/

/-- Checks one member by its name; `none` for a name that is not known. -/
abbrev MemberCheck := String → Json → Option (Except Mismatch Json)

/-- Checks the known members of an object in order, and sets the others apart. -/
def checkMembers (check : MemberCheck) : Members → Except Mismatch (Members × Members)
  | [] => .ok ([], [])
  | (key, json) :: rest =>
    match check key json with
    | none => (checkMembers check rest).map fun (known, other) => (known, (key, json) :: other)
    | some (.error mismatch) => .error mismatch
    | some (.ok value) =>
      (checkMembers check rest).map fun (known, other) => ((key, value) :: known, other)

/-- The member in its canonical form: nothing when it is a `null` to be left out. -/
def Field.emit {σ : Type} (field : Field σ) (value : Json) : List (String × Json) :=
  if field.omitNull && value.isNull then [] else [(field.name, value)]

/-- Puts in what stands for absent members, or tells the first that must not be
absent. -/
def fillAbsent {σ : Type} (known : Members) : List (Field σ) → Except Mismatch (List (String × Json))
  | [] => .ok []
  | field :: fields =>
    match known.get? field.name, field.absent with
    | some value, _ => (fillAbsent known fields).map (field.emit value ++ ·)
    | none, .missing => .error (.missing field.name)
    | none, .null => (fillAbsent known fields).map (field.emit .null ++ ·)
    | none, .default value => (fillAbsent known fields).map (field.emit value ++ ·)

/-- Where a value stands: on its own, or among members that a record with parts
has set apart, where an array that is too long is reported differently. -/
inductive Place where
  /-- A value read as it is. -/
  | whole
  /-- A value that was set apart first. -/
  | setApart
  deriving DecidableEq, Repr

/-- The mismatch of an array with more elements than the record has members. -/
def tooLong (place : Place) (length taken : Nat) : Mismatch :=
  match place with
  | .whole => .wrongLength length .fewerElements
  | .setApart => .wrongLength length (.sequenceOf taken)

/-- The first successful result. -/
def firstFit : List (Except Mismatch Json) → Option Json
  | [] => none
  | .ok value :: _ => some value
  | .error _ :: rest => firstFit rest

/-- Checks every value of a list, the first mismatch winning. -/
def checkEach (check : Json → Except Mismatch Json) : List Json → Except Mismatch (List Json)
  | [] => .ok []
  | json :: rest =>
    match check json with
    | .error mismatch => .error mismatch
    | .ok value => (checkEach check rest).map (value :: ·)

/-- Checks every value of an object, and its keys if they are references. -/
def checkDictionary (uriKeys : Bool) (check : Json → Except Mismatch Json) :
    Members → Except Mismatch Members
  | [] => .ok []
  | (key, json) :: rest =>
    match (if uriKeys then Uri.check key else .ok ()) with
    | .error fault => .error (.uri fault)
    | .ok () =>
      match check json with
      | .error mismatch => .error mismatch
      | .ok value => (checkDictionary uriKeys check rest).map ((key, value) :: ·)

/-- Checks the name of a variant, alone or as the only key of an object with a
`null`. -/
def checkVariant (variants : List String) (json : Json) : Except Mismatch Json :=
  match json with
  | .string name =>
    if variants.contains name then .ok json else .error (.unknownVariant name variants)
  | .object [(name, content)] =>
    if !variants.contains name then .error (.unknownVariant name variants)
    else if content.isNull then .ok (.string name)
    else .error (.wrongType content.found .unit)
  | .object _ => .error (.wrongValue .map .singleKey)
  | _ => .error (.wrongType json.found .variant)

/-- Checks an integer. -/
def checkInteger (type : IntegerType) (json : Json) : Except Mismatch Json :=
  match json with
  | .number (.integer value) =>
    if type.holds value then .ok json else .error (.wrongValue json.found (.integer type))
  | _ => .error (.wrongType json.found (.integer type))

/-- Checks a text. -/
def checkText (json : Json) : Except Mismatch Json :=
  match json with
  | .string _ => .ok json
  | _ => .error (.wrongType json.found .text)

/-- Checks a URI reference. -/
def checkUri (json : Json) : Except Mismatch Json :=
  match json with
  | .string text =>
    match Uri.check text with
    | .ok () => .ok json
    | .error fault => .error (.uri fault)
  | _ => .error (.wrongType json.found .text)

/-- Checks a record, written as an object or as an array, given checks for the
members of either. -/
def checkRecord {σ : Type} (name : String) (fields : List (Field σ)) (named : MemberCheck)
    (ordered : List Json → Except Mismatch (List (String × Json))) (json : Json) :
    Except Mismatch (List (String × Json)) :=
  match json with
  | .object members =>
    match checkMembers named members with
    | .error mismatch => .error mismatch
    | .ok (known, _) => fillAbsent known fields
  | .array items => ordered items
  | _ => .error (.wrongType json.found (.record name))

/-- Takes the tag out of an object, or off the front of an array. -/
def untag (key : String) (json : Json) : Except Mismatch (Json × Json) :=
  match json with
  | .object members =>
    match Members.get? members key with
    | some tag => .ok (tag, .object (members.filter fun member => member.1 != key))
    | none => .error (.missing key)
  | .array (tag :: rest) => .ok (tag, .array rest)
  | .array [] => .error (.missing key)
  | _ => .error (.wrongType json.found .map)

/-- Whether a tag tells a case, by its name or by its place among the cases. -/
def tells (tag : Json) (index : Nat) (name : String) : Bool :=
  match tag with
  | .string text => text == name
  | .number found => found == .integer index
  | _ => false

/-! ## Checking -/

mutual

/-- The canonical form of a value of the shape, or the first mismatch. -/
def Shape.check (place : Place) : Shape → Json → Except Mismatch Json
  | .any, json => .ok json
  | .boolean, json =>
    match json with
    | .bool _ => .ok json
    | _ => .error (.wrongType json.found .boolean)
  | .text, json => checkText json
  | .integer type, json => checkInteger type json
  | .uri, json => checkUri json
  | .optional shape, json =>
    match json with
    | .null => .ok .null
    | _ => shape.check place json
  | .list shape, json =>
    match json with
    | .array items => (checkEach (shape.check place) items).map .array
    | _ => .error (.wrongType json.found .sequence)
  | .tuple shapes, json =>
    match json with
    | .array items => (checkTuple place shapes.length shapes items).map .array
    | _ => .error (.wrongType json.found (.arrayOf shapes.length))
  | .dictionary uriKeys shape, json =>
    match json with
    | .object members => (checkDictionary uriKeys (shape.check place) members).map .object
    | _ => .error (.wrongType json.found .map)
  | .record name fields, json =>
    (checkRecord name fields (checkNamed place fields)
      (fun items => checkOrdered place name fields.length items.length 0 fields items)
      json).map Json.ofPairs
  | .composite name fields parts, json =>
    match json with
    | .object members =>
      match checkMembers (checkNamed place fields) members with
      | .error mismatch => .error mismatch
      | .ok (known, other) =>
        match fillAbsent known fields with
        | .error mismatch => .error mismatch
        | .ok own => (checkParts parts other).map fun spread => Json.ofPairs (own ++ spread)
    | _ => .error (.wrongType json.found (.record name))
  | .tagged key cases, json =>
    match untag key json with
    | .error mismatch => .error mismatch
    | .ok (tag, content) => (checkCases place key 0 cases tag content).map Json.ofPairs
  | .oneOf name alternatives, json =>
    match firstFit (checkAll alternatives json) with
    | some value => .ok value
    | none => .error (.noAlternative name)
  | .variant variants, json => checkVariant variants json

/-- Checks what stands beside a tag against the case that the tag tells. The
canonical form names it. -/
def checkCases (place : Place) (key : String) :
    Nat → List (Case Shape) → Json → Json → Except Mismatch (List (String × Json))
  | _, [], tag, _ => .error (.wrongType tag.found .variant)
  | index, ⟨name, fields⟩ :: cases, tag, content =>
    if tells tag index name then
      (checkRecord name fields (checkNamed place fields)
        (fun items => checkOrdered place name fields.length items.length 0 fields items)
        content).map ((key, .string name) :: ·)
    else checkCases place key (index + 1) cases tag content

/-- Checks a member against the field of its name. -/
def checkNamed (place : Place) : List (Field Shape) → MemberCheck
  | [], _, _ => none
  | ⟨name, shape, _, _⟩ :: fields, key, json =>
    if name == key then some (shape.check place json) else checkNamed place fields key json

/-- Checks the elements of an array against the fields of a record, in order. -/
def checkOrdered (place : Place) (name : String) (count length : Nat) :
    Nat → List (Field Shape) → List Json → Except Mismatch (List (String × Json))
  | _, [], [] => .ok []
  | taken, [], _ :: _ => .error (tooLong place length taken)
  | taken, ⟨key, _, absent, omitNull⟩ :: fields, [] =>
    match absent with
    | .default value =>
      (checkOrdered place name count length (taken + 1) fields []).map
        (Field.emit ⟨key, (), absent, omitNull⟩ value ++ ·)
    | _ => .error (.wrongLength taken (.elements name count))
  | taken, ⟨key, shape, absent, omitNull⟩ :: fields, json :: rest =>
    match shape.check place json with
    | .error mismatch => .error mismatch
    | .ok value =>
      (checkOrdered place name count length (taken + 1) fields rest).map
        (Field.emit ⟨key, (), absent, omitNull⟩ value ++ ·)

/-- Checks the elements of an array of fixed length. -/
def checkTuple (place : Place) (count : Nat) : List Shape → List Json → Except Mismatch (List Json)
  | [], [] => .ok []
  | [], rest@(_ :: _) => .error (tooLong place (count + rest.length) count)
  | shapes@(_ :: _), [] => .error (.wrongLength (count - shapes.length) (.arrayOf count))
  | shape :: shapes, json :: rest =>
    match shape.check place json with
    | .error mismatch => .error mismatch
    | .ok value => (checkTuple place count shapes rest).map (value :: ·)

/-- Spreads the members that a record leaves over its parts. -/
def checkParts : List (Spread Shape) → Members → Except Mismatch (List (String × Json))
  | [], _ => .ok []
  | .record _ fields :: parts, members =>
    match checkMembers (checkNamed .setApart fields) members with
    | .error mismatch => .error mismatch
    | .ok (known, other) =>
      match fillAbsent known fields with
      | .error mismatch => .error mismatch
      | .ok own => (checkParts parts other).map (own ++ ·)
  | .remaining shape :: parts, members =>
    match checkDictionary false (shape.check .setApart) members with
    | .error mismatch => .error mismatch
    | .ok spread => (checkParts parts members).map (spread ++ ·)

/-- The results of all alternatives. -/
def checkAll : List Shape → Json → List (Except Mismatch Json)
  | [], _ => []
  | shape :: shapes, json => shape.check .setApart json :: checkAll shapes json

end

/-- The canonical form of a value of the shape, or the first mismatch. -/
def Shape.canonical (shape : Shape) (json : Json) : Except Mismatch Json :=
  shape.check .whole json

end LspGateway.Json
