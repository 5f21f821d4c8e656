import LspGateway.Proofs.Message.Envelope

/-!
# Classification

Which message a value is depends on the types of its members, its version, its method and its
identifier, in this order. The conditions are stated on the members as they are written; that
the classifier follows them is shown in both directions, so that every value gets the one
verdict that its members deserve.
-/

namespace LspGateway

open Json

namespace Incoming

/-! ## Conditions -/

/-- The members of a message have the right types: the version and the method are texts, and
the error describes one, unless they are absent or `null`. -/
structure WellTyped (json : Json) : Prop where
  /-- The message is an object, or an array of no more than six elements. -/
  record : json.IsRecord Envelope.names
  /-- The version is a text. -/
  jsonrpc : ∀ value, present (json.member? Envelope.names "jsonrpc") = some value →
    ∃ text, value = .string text
  /-- The method is a text. -/
  method : ∀ value, present (json.member? Envelope.names "method") = some value →
    ∃ text, value = .string text
  /-- The error describes one. -/
  error : ∀ value, present (json.member? Envelope.names "error") = some value →
    ∃ error, ResponseError.Describes value error

/-- A well-typed message of the version that is supported. -/
structure Current (json : Json) : Prop where
  /-- The members have the right types. -/
  wellTyped : WellTyped json
  /-- The version is stated. -/
  version : json.member? Envelope.names "jsonrpc" = some (.string Outgoing.version)

/-- What a written identifier names: nothing when it is absent or `null`. -/
def Names (found : Option Json) : Option RequestId → Prop
  | none => present found = none
  | some id => found = some id.toJson ∧ id.Fits

/-- A request has a method and an identifier. -/
structure IsRequest (json : Json) (id : RequestId) (method : String) (params : Json) : Prop where
  /-- It is well typed and of the supported version. -/
  current : Current json
  /-- The method is there. -/
  method : json.member? Envelope.names "method" = some (.string method)
  /-- The identifier is a text or an integer of 64 bits. -/
  id : Names (json.member? Envelope.names "id") (some id)
  /-- Absent parameters are `null`. -/
  params : params = (json.member? Envelope.names "params").getD .null

/-- A notification has a method, but no identifier. -/
structure IsNotification (json : Json) (method : String) (params : Json) : Prop where
  /-- It is well typed and of the supported version. -/
  current : Current json
  /-- The method is there. -/
  method : json.member? Envelope.names "method" = some (.string method)
  /-- There is no identifier, not even `null`. -/
  id : json.member? Envelope.names "id" = none
  /-- Absent parameters are `null`. -/
  params : params = (json.member? Envelope.names "params").getD .null

/-- A response has no method, but an identifier or an outcome. -/
structure IsResponse (json : Json) (id : Option RequestId) (result : Option Json)
    (error : Option ResponseError) : Prop where
  /-- It is well typed and of the supported version. -/
  current : Current json
  /-- There is no method. -/
  method : present (json.member? Envelope.names "method") = none
  /-- The identifier is `null`, a text or an integer of 64 bits. -/
  id : Names (json.member? Envelope.names "id") id
  /-- Without identifier there is an outcome. -/
  outcome : json.member? Envelope.names "id" = none → result.isSome ∨ error.isSome
  /-- The result is what there is. -/
  result : result = present (json.member? Envelope.names "result")
  /-- The error is the one described. -/
  error : Option.Rel ResponseError.Describes (present (json.member? Envelope.names "error")) error

/-- What is wrong with a value that is no message, and the identifier that is kept. -/
inductive Flaw (json : Json) : Option RequestId → Defect → Prop where
  /-- A member has the wrong type. -/
  | mistyped (mismatch : Mismatch) (h : ¬ WellTyped json) : Flaw json none (.shape mismatch)
  /-- The identifier is neither a text nor an integer of 64 bits. -/
  | identifier (typed : WellTyped json)
      (unreadable : ∀ id, ¬ Names (json.member? Envelope.names "id") id) :
      Flaw json none .identifier
  /-- The version is absent or another one. -/
  | version {id : Option RequestId} (typed : WellTyped json)
      (readable : Names (json.member? Envelope.names "id") id)
      (other : json.member? Envelope.names "jsonrpc" ≠ some (.string Outgoing.version)) :
      Flaw json id .version
  /-- There is a method, and the identifier is `null`. -/
  | nullIdentifier {method : String} (current : Current json)
      (stated : json.member? Envelope.names "method" = some (.string method))
      (null : json.member? Envelope.names "id" = some .null) : Flaw json none .nullIdentifier
  /-- There is nothing that makes a message. -/
  | noMethod (current : Current json)
      (method : present (json.member? Envelope.names "method") = none)
      (id : json.member? Envelope.names "id" = none)
      (result : present (json.member? Envelope.names "result") = none)
      (error : present (json.member? Envelope.names "error") = none) : Flaw json none .noMethod

/-- The members of the value say what was made of it. -/
def Deserves (json : Json) : Except Rejection Incoming → Prop
  | .ok (.request id method params) => IsRequest json id method params
  | .ok (.notification method params) => IsNotification json method params
  | .ok (.response id result error) => IsResponse json id result error
  | .error (.invalid id defect) => Flaw json id defect
  | .error (.unreadable _) => False

/-! ## Reading the members -/

variable {json : Json} {envelope : Envelope}

/-- An optional text is a text wherever there is something. -/
theorem exists_text_iff {found : Option Json} :
    (∃ text : Option String, present found = text.map .string) ↔
      ∀ value, present found = some value → ∃ text, value = .string text := by
  constructor
  · rintro ⟨text, h⟩ value there
    rw [h] at there
    obtain ⟨text, -, rfl⟩ := Option.map_eq_some_iff.mp there
    exact ⟨text, rfl⟩
  · intro h
    cases there : present found with
    | none => exact ⟨none, rfl⟩
    | some value =>
      obtain ⟨text, rfl⟩ := h value there
      exact ⟨some text, rfl⟩

/-- An optional error is described wherever there is something. -/
theorem exists_error_iff {found : Option Json} :
    (∃ error, Option.Rel ResponseError.Describes found error) ↔
      ∀ value, found = some value → ∃ error, ResponseError.Describes value error := by
  constructor
  · rintro ⟨error, h⟩ value rfl
    cases h with
    | some describes => exact ⟨_, describes⟩
  · intro h
    cases found with
    | none => exact ⟨none, .none⟩
    | some value =>
      obtain ⟨error, describes⟩ := h value rfl
      exact ⟨some error, .some describes⟩

/-- A value is well typed exactly if it is read as an envelope. -/
theorem wellTyped_iff : WellTyped json ↔ ∃ envelope, Envelope.Reads json envelope := by
  constructor
  · intro h
    obtain ⟨jsonrpc, hjsonrpc⟩ := exists_text_iff.mpr h.jsonrpc
    obtain ⟨method, hmethod⟩ := exists_text_iff.mpr h.method
    obtain ⟨error, herror⟩ := exists_error_iff.mpr h.error
    exact ⟨⟨jsonrpc, _, method, _, _, error⟩, h.record, hjsonrpc, rfl, hmethod, rfl, rfl, herror⟩
  · rintro ⟨envelope, reads⟩
    exact ⟨reads.record, exists_text_iff.mp ⟨_, reads.jsonrpc⟩,
      exists_text_iff.mp ⟨_, reads.method⟩, exists_error_iff.mp ⟨_, reads.error⟩⟩

/-- A text that is written is read. -/
theorem text_eq_some_iff {found : Option Json} {text : Option String} {value : String}
    (h : present found = text.map .string) :
    text = some value ↔ found = some (.string value) := by
  constructor
  · rintro rfl
    exact (eq_some_of_present h).1
  · rintro rfl
    cases text with
    | none => cases h
    | some text =>
      cases h
      rfl

/-- A text that is absent or `null` is not read. -/
theorem text_eq_none_iff {found : Option Json} {text : Option String}
    (h : present found = text.map .string) : text = none ↔ present found = none := by
  rw [h, Option.map_eq_none_iff]

/-- Absent parameters are `null`. -/
theorem ofOption_present (found : Option Json) :
    Json.ofOption (present found) = found.getD .null := by
  cases found with
  | none => rfl
  | some json => cases json <;> rfl

/-- Where nothing is named, no identifier is read. -/
theorem identifier_of_absent {found : Option Json} (absent : present found = none) :
    identifier found = .ok none := by
  cases found with
  | none => rfl
  | some json => cases json <;> first | rfl | cases absent

/-- Where something is named, it is read as an identifier or not at all. -/
theorem identifier_of_value {json : Json} (there : json ≠ .null) {id : Option RequestId} :
    identifier (some json) = .ok id ↔
      ∃ name, RequestId.ofJson json = .ok name ∧ id = some name := by
  unfold identifier
  split
  · next none => cases none
  · next null => exact absurd (Option.some.inj null) there
  · next other value same =>
    cases same
    cases RequestId.ofJson json with
    | ok name => simp [eq_comm]
    | error mismatch => simp

/-- The identifier is read as what it names. -/
theorem identifier_eq_ok_iff {found : Option Json} {id : Option RequestId} :
    identifier found = .ok id ↔ Names found id := by
  by_cases absent : present found = none
  · rw [identifier_of_absent absent]
    cases id with
    | none => exact iff_of_true rfl absent
    | some id =>
      constructor
      · intro h
        cases h
      · rintro ⟨rfl, -⟩
        cases id <;> cases absent
  · obtain ⟨json, there⟩ := Option.ne_none_iff_exists'.mp absent
    obtain ⟨rfl, some⟩ := eq_some_of_present there
    rw [identifier_of_value some]
    cases id with
    | none =>
      constructor
      · rintro ⟨name, -, same⟩
        cases same
      · intro names
        exact absurd names absent
    | some id =>
      constructor
      · rintro ⟨name, read, same⟩
        cases same
        obtain ⟨rfl, fits⟩ := RequestId.ofJson_eq_ok_iff.mp read
        exact ⟨rfl, fits⟩
      · rintro ⟨same, fits⟩
        exact ⟨id, RequestId.ofJson_eq_ok_iff.mpr ⟨Option.some.inj same, fits⟩, rfl⟩

/-- Otherwise the message is rejected without one. -/
theorem identifier_eq_error {found : Option Json} {rejection : Rejection}
    (h : identifier found = .error rejection) : rejection = .invalid none .identifier := by
  unfold identifier at h
  split at h
  · cases h
  · cases h
  · split at h
    · cases h
    · cases h
      rfl

/-- What names nothing, but is there, is `null`. -/
theorem null_of_names {found : Option Json} {value : Json} (there : found = some value)
    (names : Names found none) : value = .null := by
  by_contra other
  rw [there] at names
  cases (present_some other).symm.trans names

/-- Where no error is described, there is none. -/
theorem rel_eq_none {found : Option Json}
    (h : Option.Rel ResponseError.Describes found none) : found = none := by
  cases h
  rfl

/-! ## Verdicts -/

/-- A value that is read as an envelope is classified by it. -/
theorem ofJson_of_reads (ordered : json.Ordered) (reads : Envelope.Reads json envelope) :
    ofJson json = (identifier (json.member? Envelope.names "id")).bind envelope.classify := by
  unfold ofJson
  rw [(Envelope.ofJson_eq_ok_iff ordered).mpr reads]
  simp only [reads.id]
  cases identifier (json.member? Envelope.names "id") with
  | error rejection => rfl
  | ok id => rfl

/-- An envelope gets the verdict that its members deserve. -/
theorem deserves_classify (reads : Envelope.Reads json envelope) {id : Option RequestId}
    (names : Names (json.member? Envelope.names "id") id) :
    Deserves json (envelope.classify id) := by
  have typed : WellTyped json := wellTyped_iff.mpr ⟨envelope, reads⟩
  unfold Envelope.classify
  split
  · next other =>
    refine .version typed names fun stated => ?_
    exact bne_iff_ne.mp other ((text_eq_some_iff reads.jsonrpc).mpr stated)
  · next same =>
    have version : envelope.jsonrpc = some Outgoing.version := by simpa using same
    have current : Current json := ⟨typed, (text_eq_some_iff reads.jsonrpc).mp version⟩
    have stated {method : String} : envelope.method = some method ↔
        json.member? Envelope.names "method" = some (.string method) :=
      text_eq_some_iff reads.method
    have unstated := text_eq_none_iff reads.method
    have params : Json.ofOption envelope.params =
        (json.member? Envelope.names "params").getD .null := by
      rw [reads.params, ofOption_present]
    split
    · next method _ id hmethod hid =>
      exact ⟨current, stated.mp hmethod, names, params⟩
    · next method value hmethod hid =>
      rw [reads.id] at hid
      have null : value = .null := null_of_names hid names
      exact .nullIdentifier current (stated.mp hmethod) (hid.trans (congrArg some null))
    · next method id hmethod hid =>
      exact ⟨current, stated.mp hmethod, reads.id ▸ hid, params⟩
    · next id hmethod hid =>
      rw [reads.id] at hid
      split
      · next nothing =>
        have outcome : envelope.result = none ∧ envelope.error = none := by simpa using nothing
        refine .noMethod current (unstated.mp hmethod) hid (reads.result ▸ outcome.1) ?_
        exact rel_eq_none (outcome.2 ▸ reads.error)
      · next something =>
        have outcome : envelope.result.isSome ∨ envelope.error.isSome := by
          rw [Bool.not_eq_true, Bool.and_eq_false_iff] at something
          simpa using something
        have unnamed : Names (json.member? Envelope.names "id") none := congrArg present hid
        exact ⟨current, unstated.mp hmethod, unnamed, fun _ => outcome, reads.result, reads.error⟩
    · next value hmethod hid =>
      rw [reads.id] at hid
      refine ⟨current, unstated.mp hmethod, names, ?_, reads.result, reads.error⟩
      intro absent
      rw [absent] at hid
      cases hid

/-- A value gets the verdict that its members deserve. -/
theorem deserves_ofJson (ordered : json.Ordered) : Deserves json (ofJson json) := by
  by_cases typed : WellTyped json
  · obtain ⟨envelope, reads⟩ := wellTyped_iff.mp typed
    rw [ofJson_of_reads ordered reads]
    cases read : identifier (json.member? Envelope.names "id") with
    | error rejection =>
      rw [identifier_eq_error read]
      refine .identifier typed fun id names => ?_
      rw [identifier_eq_ok_iff.mpr names] at read
      cases read
    | ok id => exact deserves_classify reads (identifier_eq_ok_iff.mp read)
  · unfold ofJson
    split
    · next mismatch _ => exact .mistyped mismatch typed
    · next envelope read =>
      exact absurd (wellTyped_iff.mpr ⟨envelope, (Envelope.ofJson_eq_ok_iff ordered).mp read⟩) typed

/-- What is current is read as an envelope of the supported version and classified by it. -/
theorem Current.ofJson_eq (ordered : json.Ordered) (current : Current json)
    {id : Option RequestId} (names : Names (json.member? Envelope.names "id") id) :
    ∃ envelope, Envelope.Reads json envelope ∧ envelope.jsonrpc = some Outgoing.version ∧
      ofJson json = envelope.classify id := by
  obtain ⟨envelope, reads⟩ := wellTyped_iff.mp current.wellTyped
  refine ⟨envelope, reads, (text_eq_some_iff reads.jsonrpc).mpr current.version, ?_⟩
  rw [ofJson_of_reads ordered reads, identifier_eq_ok_iff.mpr names]
  rfl

/-- A request is classified as one. -/
theorem IsRequest.ofJson_eq (ordered : json.Ordered) {id : RequestId} {method : String}
    {params : Json} (h : IsRequest json id method params) :
    ofJson json = .ok (.request id method params) := by
  obtain ⟨envelope, reads, version, read⟩ := h.current.ofJson_eq ordered h.id
  have stated : envelope.method = some method := (text_eq_some_iff reads.method).mpr h.method
  have there : envelope.id = some id.toJson := reads.id.trans h.id.1
  rw [read]
  unfold Envelope.classify
  simp [version, stated, there, reads.params, ofOption_present, h.params]

/-- A notification is classified as one. -/
theorem IsNotification.ofJson_eq (ordered : json.Ordered) {method : String} {params : Json}
    (h : IsNotification json method params) : ofJson json = .ok (.notification method params) := by
  have names : Names (json.member? Envelope.names "id") none := congrArg present h.id
  obtain ⟨envelope, reads, version, read⟩ := h.current.ofJson_eq ordered names
  have stated : envelope.method = some method := (text_eq_some_iff reads.method).mpr h.method
  have absent : envelope.id = none := reads.id.trans h.id
  rw [read]
  unfold Envelope.classify
  simp [version, stated, absent, reads.params, ofOption_present, h.params]

/-- A response is classified as one. -/
theorem IsResponse.ofJson_eq (ordered : json.Ordered) {id : Option RequestId}
    {found : Option Json} {stated : Option ResponseError} (h : IsResponse json id found stated) :
    ofJson json = .ok (.response id found stated) := by
  obtain ⟨envelope, reads, version, read⟩ := h.current.ofJson_eq ordered h.id
  have unstated : envelope.method = none := (text_eq_none_iff reads.method).mpr h.method
  have result : envelope.result = found := reads.result.trans h.result.symm
  have error : envelope.error = stated := ResponseError.rel_unique reads.error h.error
  rw [read]
  unfold Envelope.classify
  cases there : envelope.id with
  | some value => simp [version, unstated, result, error]
  | none =>
    have absent : json.member? Envelope.names "id" = none := reads.id.symm.trans there
    have outcome := h.outcome absent
    have unnamed : id = none := by
      cases id with
      | none => rfl
      | some id =>
        have there := h.id.1
        rw [absent] at there
        cases there
    have something : (found.isNone && stated.isNone) = false := by
      rcases outcome with there | there
      · rw [Option.isNone_eq_false_iff.mpr there, Bool.false_and]
      · rw [Option.isNone_eq_false_iff.mpr there, Bool.and_false]
    simp [version, unstated, something, unnamed, result, error]

/-! ## Exactness -/

/-- The verdict on a value, with the conditions under which each kind of message is
recognized, and what is wrong with everything else. -/
structure Classified (json : Json) (outcome : Except Rejection Incoming) : Prop where
  /-- Requests are what their members say. -/
  request (id : RequestId) (method : String) (params : Json) :
    outcome = .ok (.request id method params) ↔ IsRequest json id method params
  /-- So are notifications. -/
  notification (method : String) (params : Json) :
    outcome = .ok (.notification method params) ↔ IsNotification json method params
  /-- So are responses. -/
  response (id : Option RequestId) (result : Option Json) (error : Option ResponseError) :
    outcome = .ok (.response id result error) ↔ IsResponse json id result error
  /-- Every other value is rejected as no message. -/
  rejected : (∃ id defect, outcome = .error (.invalid id defect)) ↔
    (∀ id method params, ¬ IsRequest json id method params) ∧
      (∀ method params, ¬ IsNotification json method params) ∧
      ∀ id result error, ¬ IsResponse json id result error
  /-- The reason tells what is wrong, and which identifier was kept. -/
  flaw (id : Option RequestId) (defect : Defect) :
    outcome = .error (.invalid id defect) → Flaw json id defect

/-- A value with ordered members is classified exactly. -/
theorem classified_ofJson (ordered : json.Ordered) : Classified json (ofJson json) := by
  have deserved : Deserves json (ofJson json) := deserves_ofJson ordered
  refine ⟨fun id method params => ⟨fun h => ?_, fun h => h.ofJson_eq ordered⟩,
    fun method params => ⟨fun h => ?_, fun h => h.ofJson_eq ordered⟩,
    fun id result error => ⟨fun h => ?_, fun h => h.ofJson_eq ordered⟩,
    ⟨?_, ?_⟩, fun id defect h => ?_⟩
  · rw [h] at deserved
    exact deserved
  · rw [h] at deserved
    exact deserved
  · rw [h] at deserved
    exact deserved
  · rintro ⟨id, defect, h⟩
    refine ⟨fun _ _ _ recognized => ?_, fun _ _ recognized => ?_, fun _ _ _ recognized => ?_⟩
    all_goals
      rw [recognized.ofJson_eq ordered] at h
      cases h
  · rintro ⟨noRequest, noNotification, noResponse⟩
    generalize ofJson json = outcome at deserved ⊢
    match outcome with
    | .ok (.request id method params) => exact absurd deserved (noRequest id method params)
    | .ok (.notification method params) => exact absurd deserved (noNotification method params)
    | .ok (.response id result error) => exact absurd deserved (noResponse id result error)
    | .error (.invalid id defect) => exact ⟨id, defect, rfl⟩
    | .error (.unreadable _) => exact deserved.elim
  · rw [h] at deserved
    exact deserved

/-- A payload is classified exactly: what is no JSON text is unreadable, and any other value is
what its members make of it. -/
theorem classified (payload : Bytes) :
    match Json.read payload with
    | .error fault => decode payload = .error (.unreadable fault)
    | .ok json => Classified json (decode payload) := by
  cases read : Json.read payload with
  | error fault =>
    change decode payload = _
    rw [decode, read]
  | ok json =>
    change Classified json (decode payload)
    rw [decode, read]
    exact classified_ofJson (ordered_of_read read)

end Incoming

end LspGateway
