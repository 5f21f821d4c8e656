import LspGateway.Proofs.Json.RoundTrip
import LspGateway.Proofs.Message.Classification

/-!
# Which rejections keep the identifier

The types of the members are checked before the identifier is looked at, so a rejected object
keeps an identifier that can be read exactly if all its members have the right types. All that
can then be wrong with it is its version.
-/

namespace LspGateway

open Json

namespace Incoming

/-- An identifier that is written names one thing. -/
theorem Names.unique {found : Option Json} {id other : Option RequestId} (first : Names found id)
    (second : Names found other) : id = other := by
  have read := identifier_eq_ok_iff.mpr first
  rw [identifier_eq_ok_iff.mpr second] at read
  exact (Except.ok.inj read).symm

/-- With an identifier that can be read, only the types and the version can be wrong, and the
identifier is kept exactly if the types are right. -/
theorem Flaw.named {json : Json} {kept : Option RequestId} {defect : Defect}
    (flaw : Flaw json kept defect) {id : RequestId}
    (names : Names (json.member? Envelope.names "id") (some id)) :
    (WellTyped json ∧ kept = some id ∧ defect = .version) ∨
      (¬ WellTyped json ∧ kept = none ∧ ∃ mismatch, defect = .shape mismatch) := by
  cases flaw with
  | mistyped mismatch h => exact .inr ⟨h, rfl, mismatch, rfl⟩
  | identifier typed unreadable => exact absurd names (unreadable (some id))
  | version typed readable other => exact .inl ⟨typed, readable.unique names, rfl⟩
  | nullIdentifier current stated null =>
    have same : some id.toJson = some Json.null := names.1.symm.trans null
    cases id <;> cases same
  | noMethod current method absent result error => cases absent.symm.trans names.1

/-- An object with an identifier that can be read is rejected with it if it is well typed, its
version being wrong, and without it if it is not. So the response names the request exactly if
the members of the request have the right types. -/
theorem rejected_iff_wellTyped {payload : Bytes} {members : Members} {id : RequestId}
    {rejection : Rejection} (read : Json.read payload = .ok (.object members))
    (named : members.get? "id" = some id.toJson) (fits : id.Fits)
    (rejected : decode payload = .error rejection) :
    (rejection.response.id? = some id ↔ WellTyped (.object members)) ∧
      (rejection.response.id? = none ↔ ¬ WellTyped (.object members)) ∧
      (WellTyped (.object members) → rejection = .invalid (some id) .version) ∧
      (¬ WellTyped (.object members) →
        ∃ mismatch, rejection = .invalid none (.shape mismatch)) := by
  have deserved : Deserves (.object members) (decode payload) := by
    rw [decode, read]
    exact deserves_ofJson (ordered_of_read read)
  rw [rejected] at deserved
  have names : Names ((Json.object members).member? Envelope.names "id") (some id) := ⟨named, fits⟩
  cases rejection with
  | unreadable fault => exact deserved.elim
  | invalid kept defect =>
    have answered : (Rejection.invalid kept defect).response.id? = kept := rfl
    rw [answered]
    rcases deserved.named names with ⟨typed, rfl, rfl⟩ | ⟨mistyped, rfl, mismatch, rfl⟩
    · simp [typed]
    · simp [mistyped]

/-- A request whose method is no text is rejected without its identifier. -/
theorem rejected_of_mistyped_method :
    let members : Members := [("id", .ofInt 1), ("jsonrpc", .string "2.0"), ("method", .ofInt 5)]
    let payload : Bytes := Json.encode (.object members)
    Json.read payload = .ok (.object members) ∧
      members.get? "id" = some (RequestId.number 1).toJson ∧
      decode payload =
        .error (.invalid none (.shape (.wrongType (.number (.integer 5)) .text))) ∧
      ¬ WellTyped (.object members) := by
  intro members payload
  have ascending : members.Ascending := by
    unfold Members.Ascending
    decide
  have each : ∀ member ∈ members, member.2.Plain := by
    simp only [members, List.forall_mem_cons]
    exact ⟨plain_of_holds (by decide), .string "2.0", plain_of_holds (by decide), by simp⟩
  have plain : (Json.object members).Plain := .object ascending each
  have read : Json.read payload = .ok (.object members) := read_ofChars (plain.readsAs (by decide))
  have rejected : decode payload =
      .error (.invalid none (.shape (.wrongType (.number (.integer 5)) .text))) := by
    rw [decode, read]
    rfl
  have fits : RequestId.Fits (.number 1) := by
    unfold RequestId.Fits
    decide
  exact ⟨read, rfl, rejected, (rejected_iff_wellTyped read rfl fits rejected).2.1.mp rfl⟩

end Incoming

end LspGateway
