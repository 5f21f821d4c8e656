import LspGateway.Message.Incoming
import LspGateway.Proofs.Json.Record

/-!
# Envelopes

What the members of a value have to be for it to be read as an error or as the envelope of a
message, and that it is read as what these members say. Members may be written by name in an
object or one after the other in an array.
-/

namespace LspGateway

open Json

/-! ## Identifiers -/

namespace RequestId

/-- The identifier can be read: an integer is one of 64 bits. -/
def Fits : RequestId → Prop
  | .number value => IntegerType.i64.holds value = true
  | .text _ => True

/-- An identifier is read exactly of its own value. -/
theorem ofJson_eq_ok_iff {json : Json} {id : RequestId} :
    ofJson json = .ok id ↔ json = id.toJson ∧ id.Fits := by
  unfold ofJson
  split
  · next value =>
    constructor
    · intro h
      split at h
      · next fits =>
        cases h
        exact ⟨rfl, fits⟩
      · cases h
    · rintro ⟨same, fits⟩
      cases id with
      | number other =>
        cases same
        exact if_pos fits
      | text other => cases same
  · next value =>
    constructor
    · intro h
      cases h
      exact ⟨rfl, trivial⟩
    · rintro ⟨same, -⟩
      cases id with
      | number other => cases same
      | text other =>
        cases same
        rfl
  · next noNumber noText =>
    constructor
    · intro h
      cases h
    · rintro ⟨same, -⟩
      cases id with
      | number value => exact absurd same (noNumber value)
      | text value => exact absurd same (noText value)

end RequestId

/-! ## Errors -/

namespace ResponseError

/-- The members of an error, in the order of an array. -/
def names : List String :=
  ["code", "message", "data"]

/-- The members of a value say what the error says. -/
structure Describes (json : Json) (error : ResponseError) : Prop where
  /-- There is no further element. -/
  record : json.IsRecord names
  /-- The code is an integer. -/
  code : json.member? names "code" = some (.ofInt error.code)
  /-- The code has 64 bits. -/
  fits : IntegerType.i64.holds error.code = true
  /-- The message is a text. -/
  message : json.member? names "message" = some (.string error.message)
  /-- The data are what there is, an explicit `null` counting as none. -/
  data : error.data = present (json.member? names "data")

/-- The members of an error as they are declared. -/
def fields : List (Json.Field Shape) :=
  [.required "code" (.integer .i64), .required "message" .text, .defaulted "data" .any .null]

/-- No member of an error stands for `null` in an object only. -/
theorem fields_strict : ∀ field ∈ fields, field.absent ≠ .null := by
  simp [fields, Json.Field.required, Json.Field.defaulted]

/-- The members of an error have different names. -/
theorem fields_distinct : (fields.map Json.Field.name).Nodup := by
  decide

variable {json record : Json} {error : ResponseError}

/-- What describes an error has a canonical form. -/
theorem Describes.canonical (ascend : json.KeysAscend) (h : Describes json error) :
    ∃ record, shape.canonical json = .ok record := by
  refine ⟨_, (check_record_eq_ok_iff fields_strict fields_distinct ascend).mpr ⟨h.record, ?_, rfl⟩⟩
  have code : (Json.Field.required "code" (.integer .i64)).content .whole
      (json.member? names "code") = some (.ofInt error.code) :=
    content_integer_iff.mpr ⟨h.code, error.code, rfl, h.fits⟩
  have message : (Json.Field.required "message" .text).content .whole
      (json.member? names "message") = some (.string error.message) :=
    content_text_iff.mpr ⟨h.message, error.message, rfl⟩
  simp only [fields, List.forall_mem_cons]
  refine ⟨Option.isSome_of_eq_some code, Option.isSome_of_eq_some message, ?_, by simp⟩
  rw [content_any]
  rfl

/-- The canonical form of an error has its members. -/
theorem canonical_spec (ascend : json.KeysAscend) (h : shape.canonical json = .ok record) :
    ∃ error, Describes json error ∧ record.get? "code" = some (.ofInt error.code) ∧
      record.get? "message" = some (.string error.message) ∧ record.get? "data" = error.data := by
  obtain ⟨isRecord, contents, rfl⟩ :=
    (check_record_eq_ok_iff fields_strict fields_distinct ascend).mp h
  have filled := contents
  simp only [fields, List.forall_mem_cons] at filled
  obtain ⟨hcode, hmessage, -⟩ := filled
  obtain ⟨code, hcode⟩ := Option.isSome_iff_exists.mp hcode
  obtain ⟨message, hmessage⟩ := Option.isSome_iff_exists.mp hmessage
  obtain ⟨codeMember, number, rfl, fits⟩ := content_integer_iff.mp hcode
  obtain ⟨messageMember, text, rfl⟩ := content_text_iff.mp hmessage
  refine ⟨⟨number, text, present (json.member? names "data")⟩,
    ⟨isRecord, codeMember, fits, messageMember, rfl⟩, ?_, ?_, ?_⟩
  · exact get?_membersOf_of_keeps fields_distinct (.head _) rfl hcode
  · exact get?_membersOf_of_keeps fields_distinct (.tail _ (.head _)) rfl hmessage
  · exact get?_any fields_distinct (by simp [fields])

/-- A value describes one error at most. -/
theorem Describes.unique {other : ResponseError} (first : Describes json error)
    (second : Describes json other) : error = other := by
  obtain ⟨code, message, data⟩ := error
  obtain ⟨otherCode, otherMessage, otherData⟩ := other
  have sameCode := first.code.symm.trans second.code
  have sameMessage := first.message.symm.trans second.message
  have sameData : data = otherData := first.data.trans second.data.symm
  cases sameCode
  cases sameMessage
  rw [sameData]

/-- Nor does an optional value. -/
theorem rel_unique {found : Option Json} {error other : Option ResponseError}
    (first : Option.Rel Describes found error) (second : Option.Rel Describes found other) :
    error = other := by
  cases first with
  | none =>
    cases second
    rfl
  | some describes =>
    cases second with
    | some again => exact congrArg some (describes.unique again)

/-- The canonical form is read as what its members say. -/
theorem ofJson_of_canonical (canonical : shape.canonical json = .ok record)
    (code : record.get? "code" = some (.ofInt error.code))
    (message : record.get? "message" = some (.string error.message))
    (data : record.get? "data" = error.data) : ofJson json = .ok error := by
  unfold ofJson
  rw [canonical]
  simp [bind, Except.bind, code, message, data, ofInt]

/-- An error is read exactly of a value that describes it. -/
theorem ofJson_eq_ok_iff (ascend : json.KeysAscend) :
    ofJson json = .ok error ↔ Describes json error := by
  constructor
  · intro h
    cases canonical : shape.canonical json with
    | error mismatch =>
      unfold ofJson at h
      rw [canonical] at h
      cases h
    | ok record =>
      obtain ⟨described, describes, code, message, data⟩ := canonical_spec ascend canonical
      have same := h.symm.trans (ofJson_of_canonical canonical code message data)
      rw [Except.ok.inj same]
      exact describes
  · intro h
    obtain ⟨record, canonical⟩ := h.canonical ascend
    obtain ⟨described, describes, code, message, data⟩ := canonical_spec ascend canonical
    rw [h.unique describes]
    exact ofJson_of_canonical canonical code message data

/-- What has a canonical form describes an error, and the canonical form is read as it. -/
theorem ofJson_canonical (ascend : json.KeysAscend)
    (canonical : shape.canonical json = .ok record) :
    ∃ error, Describes json error ∧ ofJson record = .ok error := by
  obtain ⟨error, describes, code, message, data⟩ := canonical_spec ascend canonical
  refine ⟨error, describes, ?_⟩
  obtain ⟨-, -, made⟩ := (check_record_eq_ok_iff fields_strict fields_distinct ascend).mp canonical
  have keys : record.KeysAscend := made ▸ keysAscend_ofPairs _
  refine (ofJson_eq_ok_iff keys).mpr ?_
  have counts : error.data = present error.data := by rw [describes.data, present_present]
  rw [made] at code message data ⊢
  exact ⟨trivial, code, describes.fits, message, counts.trans (congrArg present data.symm)⟩

end ResponseError

/-! ## Envelopes -/

namespace Envelope

/-- The members of a message, in the order of an array. -/
def names : List String :=
  ["jsonrpc", "id", "method", "params", "result", "error"]

/-- The members of a value say what the envelope says. An explicit `null` counts as absent,
except for the identifier. -/
structure Reads (json : Json) (envelope : Envelope) : Prop where
  /-- There is no further element. -/
  record : json.IsRecord names
  /-- The version is a text, if there is one. -/
  jsonrpc : present (json.member? names "jsonrpc") = envelope.jsonrpc.map .string
  /-- The identifier is what stands there. -/
  id : envelope.id = json.member? names "id"
  /-- The method is a text, if there is one. -/
  method : present (json.member? names "method") = envelope.method.map .string
  /-- The parameters are what there is. -/
  params : envelope.params = present (json.member? names "params")
  /-- The result is what there is. -/
  result : envelope.result = present (json.member? names "result")
  /-- The error describes one, if there is one. -/
  error : Option.Rel ResponseError.Describes (present (json.member? names "error")) envelope.error

/-- The members of a message as they are declared. -/
def fields : List (Json.Field Shape) :=
  [.defaulted "jsonrpc" (.optional .text) .null, .defaulted "id" .any .null,
    .defaulted "method" (.optional .text) .null, .defaulted "params" .any .null,
    .defaulted "result" .any .null, .defaulted "error" (.optional ResponseError.shape) .null]

/-- No member of a message stands for `null` in an object only. -/
theorem fields_strict : ∀ field ∈ fields, field.absent ≠ .null := by
  simp [fields, Json.Field.defaulted]

/-- The members of a message have different names. -/
theorem fields_distinct : (fields.map Json.Field.name).Nodup := by
  decide

variable {json record : Json} {envelope : Envelope}

/-- If an optional error has a content, that is read as the error described. -/
theorem exists_error_of_content {name : String} {found : Option Json}
    (keys : ∀ value, found = some value → value.KeysAscend)
    (h : ((Json.Field.defaulted name (.optional ResponseError.shape) .null).content .whole
      found).isSome) :
    ∃ error, Option.Rel ResponseError.Describes (present found) error ∧
      Option.Rel (fun value error => ResponseError.ofJson value = .ok error)
        (present ((Json.Field.defaulted name (.optional ResponseError.shape) .null).content .whole
          found)) error := by
  rw [content_optional] at h ⊢
  split at h
  · next absent =>
    rw [absent]
    exact ⟨none, .none, .none⟩
  · next value there =>
    cases canonical : ResponseError.shape.check .whole value with
    | error mismatch =>
      rw [canonical] at h
      cases h
    | ok record =>
      obtain ⟨error, describes, read⟩ :=
        ResponseError.ofJson_canonical (keys value (eq_some_of_present there).1) canonical
      have counts : record ≠ .null := by
        rintro rfl
        cases read
      refine ⟨some error, there ▸ .some describes, ?_⟩
      exact (present_some counts).symm ▸ .some read

/-- What an envelope reads has a canonical form. -/
theorem Reads.canonical (ordered : json.Ordered) (h : Reads json envelope) :
    ∃ record, shape.canonical json = .ok record := by
  refine ⟨_, (check_record_eq_ok_iff fields_strict fields_distinct ordered.keysAscend).mpr
    ⟨h.record, ?_, rfl⟩⟩
  have error : ((Json.Field.defaulted "error" (.optional ResponseError.shape) .null).content .whole
      (json.member? names "error")).isSome := by
    rw [content_optional]
    have described := h.error
    generalize envelope.error = stated at described
    split
    · rfl
    · next value there =>
      rw [there] at described
      cases described with
      | some describes =>
        have keys : value.KeysAscend :=
          (ordered.of_member? (eq_some_of_present there).1).keysAscend
        obtain ⟨record, canonical⟩ := describes.canonical keys
        rw [Shape.canonical] at canonical
        rw [canonical]
        rfl
  simp only [fields, List.forall_mem_cons]
  exact ⟨Option.isSome_of_eq_some (content_text h.jsonrpc), Option.isSome_of_eq_some content_any,
    Option.isSome_of_eq_some (content_text h.method), Option.isSome_of_eq_some content_any,
    Option.isSome_of_eq_some content_any, error, by simp⟩

/-- The canonical form of a message has its members. -/
theorem canonical_spec (ordered : json.Ordered) (h : shape.canonical json = .ok record) :
    ∃ envelope, Reads json envelope ∧
      record.get? "jsonrpc" = envelope.jsonrpc.map .string ∧
      record.get? "method" = envelope.method.map .string ∧
      record.get? "params" = envelope.params ∧ record.get? "result" = envelope.result ∧
      Option.Rel (fun value error => ResponseError.ofJson value = .ok error) (record.get? "error")
        envelope.error := by
  obtain ⟨isRecord, contents, rfl⟩ :=
    (check_record_eq_ok_iff fields_strict fields_distinct ordered.keysAscend).mp h
  have filled := contents
  simp only [fields, List.forall_mem_cons] at filled
  obtain ⟨hjsonrpc, -, hmethod, -, -, herror, -⟩ := filled
  obtain ⟨jsonrpc, hjsonrpc⟩ := exists_text_of_content hjsonrpc
  obtain ⟨method, hmethod⟩ := exists_text_of_content hmethod
  obtain ⟨error, describes, read⟩ := exists_error_of_content
    (fun value found => (ordered.of_member? found).keysAscend) herror
  refine ⟨⟨jsonrpc, json.member? names "id", method, present (json.member? names "params"),
    present (json.member? names "result"), error⟩,
    ⟨isRecord, hjsonrpc, rfl, hmethod, rfl, rfl, describes⟩, ?_, ?_, ?_, ?_, ?_⟩
  · exact get?_text fields_distinct (by simp [fields]) hjsonrpc
  · exact get?_text fields_distinct (by simp [fields]) hmethod
  · exact get?_any fields_distinct (by simp [fields])
  · exact get?_any fields_distinct (by simp [fields])
  · have last : Json.Field.defaulted "error" (.optional ResponseError.shape) .null ∈ fields := by
      simp [fields]
    have stands := get?_membersOf_of_omits fields_distinct
      (fun field => field.content .whole (json.member? names field.name)) last rfl
    exact (congrArg (Option.Rel _ · error) stands).mpr read

/-- A value is read as one envelope at most. -/
theorem Reads.unique {other : Envelope} (first : Reads json envelope) (second : Reads json other) :
    envelope = other := by
  have string_injective : Function.Injective Json.string := fun _ _ same => Json.string.inj same
  have jsonrpc : envelope.jsonrpc = other.jsonrpc :=
    Option.map_injective string_injective (first.jsonrpc.symm.trans second.jsonrpc)
  have method : envelope.method = other.method :=
    Option.map_injective string_injective (first.method.symm.trans second.method)
  have id : envelope.id = other.id := first.id.trans second.id.symm
  have params : envelope.params = other.params := first.params.trans second.params.symm
  have result : envelope.result = other.result := first.result.trans second.result.symm
  have error : envelope.error = other.error :=
    ResponseError.rel_unique first.error second.error
  cases envelope
  cases other
  simp only at jsonrpc method id params result error
  rw [jsonrpc, method, id, params, result, error]

/-- The written identifier is the member of that name. -/
theorem writtenId_eq (json : Json) : writtenId json = json.member? names "id" := by
  cases json <;> rfl

/-- The canonical form is read as what its members say, the identifier being taken from the
value itself. -/
theorem ofJson_of_canonical (canonical : shape.canonical json = .ok record)
    (jsonrpc : record.get? "jsonrpc" = envelope.jsonrpc.map .string)
    (id : envelope.id = json.member? names "id")
    (method : record.get? "method" = envelope.method.map .string)
    (params : record.get? "params" = envelope.params)
    (result : record.get? "result" = envelope.result)
    (error : Option.Rel (fun value error => ResponseError.ofJson value = .ok error)
      (record.get? "error") envelope.error) : ofJson json = .ok envelope := by
  have string? (text : Option String) : (text.map Json.string).bind Json.string? = text := by
    cases text <;> rfl
  obtain ⟨jsonrpcText, idValue, methodText, paramsValue, resultValue, errorValue⟩ := envelope
  unfold ofJson
  rw [canonical]
  generalize found : record.get? "error" = there at error
  cases error with
  | none =>
    simp [bind, Except.bind, found, jsonrpc, method, params, result, writtenId_eq, ← id, string?]
  | some read =>
    simp [bind, Except.bind, Except.map, found, read, jsonrpc, method, params, result,
      writtenId_eq, ← id, string?]

/-- An envelope is read exactly of a value whose members say what it says. -/
theorem ofJson_eq_ok_iff (ordered : json.Ordered) :
    ofJson json = .ok envelope ↔ Reads json envelope := by
  constructor
  · intro h
    cases canonical : shape.canonical json with
    | error mismatch =>
      unfold ofJson at h
      rw [canonical] at h
      cases h
    | ok record =>
      obtain ⟨read, reads, jsonrpc, method, params, result, error⟩ :=
        canonical_spec ordered canonical
      have same := h.symm.trans
        (ofJson_of_canonical canonical jsonrpc reads.id method params result error)
      rw [Except.ok.inj same]
      exact reads
  · intro h
    obtain ⟨record, canonical⟩ := h.canonical ordered
    obtain ⟨read, reads, jsonrpc, method, params, result, error⟩ :=
      canonical_spec ordered canonical
    rw [h.unique reads]
    exact ofJson_of_canonical canonical jsonrpc reads.id method params result error

end Envelope

end LspGateway
