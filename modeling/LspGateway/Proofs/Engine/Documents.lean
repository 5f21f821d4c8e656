import LspGateway.Engine.Placeholder
import LspGateway.Proofs.Registry.Live

/-!
# One document in the placeholder engine

The placeholder engine keeps a table of documents. Here the table is looked at from one URI:
what a call makes of the document of that URI depends on that document and the call alone,
and calls about other documents make nothing of it. A hover is answered from the document
of its URI in the same way.
-/

namespace LspGateway.Engine

namespace Documents

/-- A document that is kept is found under its own URI, and the others stay. -/
theorem get?_insert_eq (documents : Documents) (uri other : String) (document : Document) :
    (documents.insert uri document).get? other =
      if other = uri then some document else documents.get? other := by
  by_cases same : other = uri
  · rw [same, get?_insert, if_pos rfl]
  · have differ : (other == uri) = false := beq_eq_false_iff_ne.mpr same
    rw [if_neg same]
    change List.lookup other ((uri, document) :: _) = _
    rw [List.lookup_cons, differ]
    exact (Registry.lookup_filter_ne documents.entries uri other).trans (if_neg same)

/-- A document that is forgotten is not found, and the others stay. -/
theorem get?_erase (documents : Documents) (uri other : String) :
    (documents.erase uri).get? other = if other = uri then none else documents.get? other :=
  Registry.lookup_filter_ne documents.entries uri other

end Documents

namespace Placeholder

/-- The changes that parameters carry. -/
def changes (params : Json) : List Json :=
  ((params.get? "contentChanges").bind Json.array?).getD []

/-- What a call makes of the document of a URI. Nothing comes of calls about other documents,
of changes to a document that is not open, and of changes in part. -/
def revise (uri : String) (document : Option Document) (call : Call) : Option Document :=
  if uriOf call.params = uri then
    match call.operation with
    | .notice .didOpen =>
      some ⟨intAt call.params ["textDocument", "version"],
        textAt call.params ["textDocument", "text"]⟩
    | .notice .didChange =>
      if (changes call.params).any fun change => (change.get? "range").isSome then document
      else document.map fun document =>
        ⟨intAt call.params ["textDocument", "version"],
          ((changes call.params).getLast?.map fun change => textAt change ["text"]).getD
            document.text⟩
    | .notice .didClose => none
    | _ => document
  else document

/-- What is said of a document in answer to a hover. -/
def describe : Option Document → Json
  | none => .null
  | some document =>
    .ofPairs [("contents", .ofPairs [("kind", .string "plaintext"),
      ("value", .string s!"version {document.version}, {document.lineCount} lines")])]

/-- A call that is no notification about a document makes nothing of any. -/
theorem revise_of_unnoticed (uri : String) (document : Option Document) {call : Call}
    (other : ∀ notice, call.operation ≠ .notice notice) : revise uri document call = document := by
  unfold revise
  split
  · split
    · next opens => exact absurd opens (other .didOpen)
    · next changes => exact absurd changes (other .didChange)
    · next closes => exact absurd closes (other .didClose)
    · rfl
  · rfl

/-- The documents after a change; those before if it failed. -/
def changed (params : Json) (documents : Documents) : Documents :=
  match didChange params documents with
  | .ok after => after
  | .error _ => documents

/-- A change changes the document of its URI, if it is open and the change is one of the whole
text. -/
theorem get?_changed (params : Json) (documents : Documents) (uri : String) :
    (changed params documents).get? uri =
      revise uri (documents.get? uri) ⟨.notice .didChange, params⟩ := by
  unfold changed didChange revise
  dsimp only
  change _ = if uriOf params = uri then
    if (changes params).any (fun change => (change.get? "range").isSome) then _ else _ else _
  cases partly : (changes params).any fun change => (change.get? "range").isSome with
  | true =>
    have partly : (((params.get? "contentChanges").bind Json.array?).getD []).any
        (fun change => (change.get? "range").isSome) = true := partly
    simp only [partly, if_true, ite_self]
  | false =>
    have whole : (((params.get? "contentChanges").bind Json.array?).getD []).any
        (fun change => (change.get? "range").isSome) = false := partly
    simp only [whole, Bool.false_eq_true, if_false]
    cases opened : documents.get? (uriOf params) with
    | none =>
      dsimp only
      split
      · next about =>
        rw [about] at opened
        rw [opened]
        rfl
      · rfl
    | some document =>
      dsimp only
      rw [Documents.get?_insert_eq]
      by_cases about : uri = uriOf params
      · subst about
        rw [if_pos rfl, if_pos rfl, opened]
        unfold changes
        cases (((params.get? "contentChanges").bind Json.array?).getD []).getLast? <;> rfl
      · rw [if_neg about, if_neg (Ne.symm about)]

/-- Seen from a URI, a call revises the document. -/
theorem get?_begin (call : Call) (cancelled : Option Bool) (documents : Documents) (uri : String) :
    (begin call cancelled documents).1.get? uri = revise uri (documents.get? uri) call := by
  obtain ⟨operation, params⟩ := call
  have unnoticed (other : ∀ notice, operation ≠ .notice notice) :
      documents.get? uri = revise uri (documents.get? uri) ⟨operation, params⟩ :=
    (revise_of_unnoticed uri _ other).symm
  cases operation with
  | notice notice =>
    cases notice with
    | didOpen =>
      change (didOpen params documents).get? uri = _
      unfold didOpen revise
      rw [Documents.get?_insert_eq]
      by_cases about : uri = uriOf params
      · rw [if_pos about, if_pos about.symm]
      · rw [if_neg about, if_neg (Ne.symm about)]
    | didChange =>
      rw [← get?_changed]
      unfold begin changed
      dsimp only
      cases didChange params documents <;> rfl
    | didClose =>
      change (documents.erase (uriOf params)).get? uri = _
      unfold revise
      rw [Documents.get?_erase]
      by_cases about : uri = uriOf params
      · rw [if_pos about, if_pos about.symm]
      · rw [if_neg about, if_neg (Ne.symm about)]
    | _ => exact (ite_self _).symm
  | feature feature =>
    rw [← unnoticed nofun]
    cases feature with
    | hover =>
      unfold begin
      dsimp only
      split <;> rfl
    | _ => rfl
  | _ => exact unnoticed nofun

/-- A hover text describes the document of its URI. -/
theorem hover_eq (params : Json) (documents : Documents) :
    hover params documents = describe (documents.get? (uriOf params)) := by
  unfold hover
  cases documents.get? (uriOf params) <;> rfl

/-- A hover that ends with a result describes the document of its URI. -/
theorem value_of_hover {call : Call} {cancelled : Option Bool} {documents : Documents}
    (hover : call.operation = .feature .hover) {value : Json}
    (answered : (begin call cancelled documents).2.progress = .done (.result value)) :
    value = describe (documents.get? (uriOf call.params)) := by
  unfold begin at answered
  rw [hover] at answered
  dsimp only at answered
  split at answered
  · exact absurd answered nofun
  · injection answered with same
    injection same with same
    rw [← same]
    exact hover_eq call.params documents

end Placeholder

end LspGateway.Engine
