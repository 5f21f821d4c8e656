import LspGateway.Proofs.Json.RoundTrip
import LspGateway.Proofs.Message.Classification

/-!
# Messages on the wire

What the gateway writes is read back as the message that it was. The members of a message are
written in a fixed order and read in the order of their keys; a `null` result and `null` data
are read as none.
-/

namespace LspGateway

open Json

/-! ## Errors -/

namespace ResponseError

/-- The members of an error as they are written. -/
def members (error : ResponseError) : List (String × Json) :=
  [("code", .ofInt error.code), ("message", .string error.message)] ++
    (error.data.map fun data => ("data", data)).toList

/-- The error as it is read back. -/
def echo (error : ResponseError) : ResponseError :=
  { error with data := present error.data }

/-- The written members describe the error as it is read back. -/
theorem describes_members {error : ResponseError}
    (fits : IntegerType.i64.holds error.code = true) :
    Describes (Json.ofPairs error.members) error.echo := by
  have found (name : String) : (Json.ofPairs error.members).member? names name =
      error.members.reverse.lookup name :=
    Members.get?_ofPairs _ _
  have data := congrArg present (found "data").symm
  obtain ⟨code, message, stated⟩ := error
  cases stated with
  | none => exact ⟨trivial, found "code", fits, found "message", data⟩
  | some value => exact ⟨trivial, found "code", fits, found "message", data⟩

/-- The written members have plain values. -/
theorem plain_members {error : ResponseError} (fits : IntegerType.i64.holds error.code = true)
    (plain : ∀ data, error.data = some data → data.Plain) :
    ∀ member ∈ error.members, member.2.Plain := by
  intro member found
  simp only [members, List.mem_append, List.mem_cons, List.not_mem_nil, or_false,
    Option.mem_toList, Option.map_eq_some_iff] at found
  rcases found with (rfl | rfl) | ⟨data, hdata, rfl⟩
  · exact plain_of_holds fits
  · exact .string error.message
  · exact plain data hdata

end ResponseError

/-! ## Messages -/

namespace Outgoing

/-- The values of the message are plain, and its numbers have 64 bits. -/
def Plain : Outgoing → Prop
  | .response id (.result value) => (∀ name, id = some name → name.Fits) ∧ value.Plain
  | .response id (.error error) => (∀ name, id = some name → name.Fits) ∧
      IntegerType.i64.holds error.code = true ∧ ∀ data, error.data = some data → data.Plain
  | .notification _ params => ∀ value, params = some value → value.Plain

/-- The message as it is read back. -/
def echo : Outgoing → Incoming
  | .response id (.result value) => .response id (present (some value)) none
  | .response id (.error error) => .response id none (some error.echo)
  | .notification method params => .notification method (Json.ofOption params)

/-- The members of the message as they are read back: those of an error are put in order. -/
def received : Outgoing → List (String × Json)
  | .response id (.error error) =>
    [("jsonrpc", .string version), ("id", Json.ofOption (id.map RequestId.toJson)),
      ("error", Json.ofPairs error.members)]
  | message => message.members

/-- An identifier is plain. -/
theorem plain_id {id : Option RequestId} (fits : ∀ name, id = some name → name.Fits) :
    (Json.ofOption (id.map RequestId.toJson)).Plain := by
  cases id with
  | none => exact .null
  | some name =>
    cases name with
    | number value => exact plain_of_holds (fits _ rfl)
    | text value => exact .string value

/-- The members of a plain message are read back. -/
theorem members_readAs {message : Outgoing} (plain : message.Plain) {depth : Nat}
    (shallow : nestingMembers message.members ≤ depth) :
    List.Forall₂ (Reader.MemberReadsAs depth) message.members message.received := by
  match message, plain with
  | .response id (.result value), ⟨fits, plain⟩ =>
    refine membersReadAs_of_plain ?_ shallow
    simp only [members, List.forall_mem_cons]
    exact ⟨.string version, plain_id fits, plain, by simp⟩
  | .notification method params, plain =>
    refine membersReadAs_of_plain (fun member found => ?_) shallow
    simp only [members, List.mem_append, List.mem_cons, List.not_mem_nil, or_false,
      Option.mem_toList, Option.map_eq_some_iff] at found
    rcases found with (rfl | rfl) | ⟨value, hvalue, rfl⟩
    · exact .string version
    · exact .string method
    · exact plain value hvalue
  | .response id (.error error), ⟨fits, code, plain⟩ =>
    have inside : ("error", error.toJson) ∈ members (.response id (.error error)) :=
      .tail _ (.tail _ (.head _))
    have deep : nestingMembers error.members + 1 ≤ depth :=
      (nesting_le_of_mem_members inside).trans shallow
    obtain ⟨depth, rfl⟩ := Nat.exists_eq_succ_of_ne_zero (Nat.ne_zero_of_lt deep)
    have read : Reader.ReadsAs (depth + 1) error.toJson (Json.ofPairs error.members) :=
      Reader.readsAs_object (membersReadAs_of_plain (ResponseError.plain_members code plain)
        (Nat.le_of_succ_le_succ deep))
    have named : Reader.ReadsAs (depth + 1) (Json.ofOption (id.map RequestId.toJson))
        (Json.ofOption (id.map RequestId.toJson)) :=
      (plain_id fits).readsAs ((nesting_le_of_mem_members
        (List.mem_cons_of_mem _ List.mem_cons_self)).trans shallow)
    exact .cons ⟨rfl, Reader.readsAs_string version⟩
      (.cons ⟨rfl, named⟩ (.cons ⟨rfl, read⟩ .nil))

/-- A plain message is read as the object of its members. -/
theorem read_encode {message : Outgoing} (plain : message.Plain)
    (shallow : nesting (.object message.members) ≤ Reader.maxDepth) :
    Json.read message.encode = .ok (Json.ofPairs message.received) := by
  rw [nesting] at shallow
  have inner : nestingMembers message.members ≤ 126 := Nat.le_of_succ_le_succ shallow
  exact read_ofChars (Reader.readsAs_object (members_readAs plain inner))

/-- A member is read back as the last of its name. -/
theorem member?_received (message : Outgoing) (name : String) :
    (Json.ofPairs message.received).member? Envelope.names name =
      message.received.reverse.lookup name :=
  Members.get?_ofPairs _ _

/-- What is received is current if its members make a message of the supported version. -/
theorem current_received {message : Outgoing} (method : Option String)
    {error : Option ResponseError}
    (stated : message.received.reverse.lookup "jsonrpc" = some (.string version))
    (called : present (message.received.reverse.lookup "method") = method.map .string)
    (described : Option.Rel ResponseError.Describes
      (present (message.received.reverse.lookup "error")) error) :
    Incoming.Current (Json.ofPairs message.received) := by
  rw [← member?_received] at stated called described
  have text : present ((Json.ofPairs message.received).member? Envelope.names "jsonrpc") =
      (some version).map .string := by
    rw [stated]
    rfl
  exact ⟨⟨trivial, Incoming.exists_text_iff.mp ⟨_, text⟩, Incoming.exists_text_iff.mp ⟨_, called⟩,
    Incoming.exists_error_iff.mp ⟨_, described⟩⟩, stated⟩

/-- An identifier that is written is named. -/
theorem names_id {id : Option RequestId} (fits : ∀ name, id = some name → name.Fits) :
    Incoming.Names (some (Json.ofOption (id.map RequestId.toJson))) id := by
  cases id with
  | none => rfl
  | some name => exact ⟨rfl, fits name rfl⟩

variable {id : Option RequestId}

/-- A written result is a response. -/
theorem isResponse_result (fits : ∀ name, id = some name → name.Fits) (value : Json) :
    Incoming.IsResponse (Json.ofPairs (received (.response id (.result value)))) id
      (present (some value)) none := by
  have member := member?_received (.response id (.result value))
  have current : Incoming.Current (Json.ofPairs (received (.response id (.result value)))) :=
    current_received none rfl rfl .none
  refine ⟨current, congrArg present (member "method"), ?_, fun absent => ?_,
    congrArg present (member "result").symm, ?_⟩
  · rw [member "id"]
    exact names_id fits
  · rw [member "id"] at absent
    cases absent
  · rw [member "error"]
    exact .none

/-- A written error is a response. -/
theorem isResponse_error (fits : ∀ name, id = some name → name.Fits) {error : ResponseError}
    (code : IntegerType.i64.holds error.code = true) :
    Incoming.IsResponse (Json.ofPairs (received (.response id (.error error)))) id none
      (some error.echo) := by
  have member := member?_received (.response id (.error error))
  have described : Option.Rel ResponseError.Describes (some (Json.ofPairs error.members))
      (some error.echo) :=
    .some (ResponseError.describes_members code)
  have current : Incoming.Current (Json.ofPairs (received (.response id (.error error)))) :=
    current_received none rfl rfl described
  refine ⟨current, congrArg present (member "method"), ?_, fun _ => .inr rfl,
    congrArg present (member "result").symm, ?_⟩
  · rw [member "id"]
    exact names_id fits
  · rw [member "error"]
    exact described

/-- A written notification is one. -/
theorem isNotification_notification (method : String) (params : Option Json) :
    Incoming.IsNotification (Json.ofPairs (received (.notification method params))) method
      (Json.ofOption params) := by
  have member := member?_received (.notification method params)
  have current : Incoming.Current (Json.ofPairs (received (.notification method params))) := by
    cases params with
    | none => exact current_received (some method) rfl rfl .none
    | some value => exact current_received (some method) rfl rfl .none
  cases params with
  | none =>
    exact ⟨current, member "method", member "id", congrArg (·.getD .null) (member "params").symm⟩
  | some value =>
    exact ⟨current, member "method", member "id", congrArg (·.getD .null) (member "params").symm⟩

/-- A plain message is classified as what it was. -/
theorem ofJson_received {message : Outgoing} (plain : message.Plain)
    (ordered : (Json.ofPairs message.received).Ordered) :
    Incoming.ofJson (Json.ofPairs message.received) = .ok message.echo := by
  match message, plain with
  | .response id (.result value), ⟨fits, _⟩ =>
    exact (isResponse_result fits value).ofJson_eq ordered
  | .response id (.error error), ⟨fits, code, _⟩ =>
    exact (isResponse_error fits code).ofJson_eq ordered
  | .notification method params, _ =>
    exact (isNotification_notification method params).ofJson_eq ordered

/-- Exactly one of result and error is written in a response, and no identifier in a
notification. -/
def Exclusive (message : Outgoing) (members : Members) : Prop :=
  match message with
  | .response _ _ => (members.get? "result").isSome ≠ (members.get? "error").isSome
  | .notification _ _ => members.get? "id" = none

/-- The written members are exclusive. -/
theorem exclusive_received (message : Outgoing) :
    message.Exclusive (Members.ofPairs message.received) := by
  have found (name : String) : Members.get? (Members.ofPairs message.received) name =
      message.received.reverse.lookup name :=
    Members.get?_ofPairs _ _
  match message with
  | .response id (.result value) =>
    rw [Exclusive, found, found]
    exact Bool.false_ne_true.symm
  | .response id (.error error) =>
    rw [Exclusive, found, found]
    exact Bool.false_ne_true
  | .notification method none => exact found "id"
  | .notification method (some value) => exact found "id"

/-- Plain messages survive the wire: what is written is read back as the message that it was,
a `null` result or `null` data as none. So exactly one of result and error is written in a
response, a notification carries no identifier, and nothing written is read as a request. -/
theorem decode_encode {message : Outgoing} (plain : message.Plain)
    (shallow : nesting (.object message.members) ≤ Reader.maxDepth) :
    Incoming.decode message.encode = .ok message.echo ∧
      (∃ members, Json.read message.encode = .ok (.object members) ∧ message.Exclusive members) ∧
      ∀ id method params, Incoming.decode message.encode ≠ .ok (.request id method params) := by
  have read := read_encode plain shallow
  have decoded : Incoming.decode message.encode = .ok message.echo := by
    unfold Incoming.decode
    rw [read]
    exact ofJson_received plain (ordered_of_read read)
  refine ⟨decoded, ⟨_, read, exclusive_received message⟩, fun id method params requested => ?_⟩
  rw [decoded] at requested
  match message with
  | .response _ (.result _) => cases requested
  | .response _ (.error _) => cases requested
  | .notification _ _ => cases requested

/-- Quotes, control characters, letters beyond ASCII and the extreme integers survive. -/
theorem decode_encode_of_extremes :
    let value : Json := .array [.string "ü\u0001\\", .ofInt (2 ^ 64 - 1), .ofInt (-2 ^ 63),
      .object [("\n", .null), ("é", .bool true)]]
    let message : Outgoing := .response (some (.text "\"1\"")) (.result value)
    Incoming.decode message.encode = .ok (.response (some (.text "\"1\"")) (some value) none) := by
  intro value message
  have inner : (Json.object [("\n", .null), ("é", .bool true)]).Plain := by
    refine .object ?_ ?_
    · unfold Members.Ascending
      decide
    · simp only [List.forall_mem_cons]
      exact ⟨.null, .bool true, by simp⟩
  have plain : value.Plain := by
    refine .array ?_
    simp only [List.forall_mem_cons]
    exact ⟨.string _, .integer (by decide) (by decide), .integer (by decide) (by decide), inner,
      by simp⟩
  have fits : ∀ name : RequestId, some (RequestId.text "\"1\"") = some name → name.Fits := by
    rintro name ⟨⟩
    trivial
  have whole : message.Plain := ⟨fits, plain⟩
  exact (decode_encode whole (by decide)).1

end Outgoing

end LspGateway
