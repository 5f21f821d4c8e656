import LspGateway.Dispatch.Handler
import LspGateway.Proofs.Engine.Documents
import LspGateway.Proofs.Json.Record
import Mathlib.Data.List.Forall2
import Mathlib.Logic.Function.Basic

/-!
# What the placeholder engine knows of documents

The placeholder engine is told of documents by calls, and is disposed of. What it was told is
written down here as orders, each with the data that its call carries, and a map from URIs to
documents says what is to be known after each order and how the order is to be answered. After
every sequence of calls, about whatever documents, the table of the engine is that map, and all
answers were as they should. Every call about a document that the gateway decodes carries an
order.
-/

namespace LspGateway.Engine

/-! ## Lines and keys -/

/-- Lines that end with a line feed each, and a rest without any, which is a line unless it is
empty. -/
theorem Document.lineCount_of_lines (version : Int) {text : String} (lines : List (List Char))
    (rest : List Char) (whole : text.toList = (lines.map (· ++ ['\n'])).flatten ++ rest)
    (ended : ∀ line ∈ lines, '\n' ∉ line) (inside : '\n' ∉ rest) :
    (⟨version, text⟩ : Document).lineCount = lines.length + if rest = [] then 0 else 1 := by
  have feeds : ((lines.map (· ++ ['\n'])).flatten).count '\n' = lines.length := by
    clear whole
    induction lines with
    | nil => rfl
    | cons line lines ih =>
      obtain ⟨first, others⟩ := List.forall_mem_cons.mp ended
      simp [List.count_eq_zero.mpr first, ih others]
  unfold Document.lineCount
  dsimp only
  rw [whole, List.count_append, feeds, List.count_eq_zero.mpr inside, Nat.add_zero]
  congr 1
  rcases List.eq_nil_or_concat rest with rfl | ⟨before, last, rfl⟩
  · rcases List.eq_nil_or_concat lines with rfl | ⟨earlier, line, rfl⟩ <;> simp
  · have other : last ≠ '\n' := fun feed => inside (by simp [feed])
    simp [← List.append_assoc, other]

namespace Documents

/-- Documents are kept under keys of their own. -/
def Distinct (documents : Documents) : Prop :=
  (documents.entries.map Prod.fst).Nodup

/-- They still are when one is forgotten. -/
theorem Distinct.erase {documents : Documents} (distinct : documents.Distinct) (uri : String) :
    (documents.erase uri).Distinct :=
  List.Nodup.sublist (List.filter_sublist.map Prod.fst) distinct

/-- They still are when one is put in. -/
theorem Distinct.insert {documents : Documents} (distinct : documents.Distinct) (uri : String)
    (document : Document) : (documents.insert uri document).Distinct := by
  refine List.nodup_cons.mpr ⟨?_, distinct.erase uri⟩
  intro there
  obtain ⟨entry, kept, same⟩ := List.mem_map.mp there
  have other := (List.mem_filter.mp kept).2
  rw [same] at other
  simp at other

end Documents

namespace Placeholder

/-! ## Orders -/

/-- A change of a document. -/
structure Edit where
  /-- Whether it is one of a part of the text. -/
  partly : Bool
  /-- The text that it brings. -/
  text : String

/-- What the engine is told of documents, or asked for. -/
inductive Order where
  /-- A document was opened. -/
  | opening (uri : String) (version : Int) (text : String)
  /-- A document was changed. -/
  | changing (uri : String) (version : Int) (edits : List Edit)
  /-- A document was closed. -/
  | closing (uri : String)
  /-- A hover is asked for, by a request that may be cancelled. -/
  | hovering (uri : String) (cancelled : Bool)
  /-- The engine is disposed of. -/
  | disposing

/-- What is known of documents, by their URIs. -/
abbrev Known := String → Option Document

namespace Order

/-- What is known after an order. -/
def follow (known : Known) : Order → Known
  | .opening uri version text => Function.update known uri (some ⟨version, text⟩)
  | .changing uri version edits =>
    match edits.any Edit.partly, known uri with
    | false, some document =>
      Function.update known uri
        (some ⟨version, (edits.getLast?.map Edit.text).getD document.text⟩)
    | _, _ => known
  | .closing uri => Function.update known uri none
  | .hovering _ _ => known
  | .disposing => fun _ => none

/-- How an order is answered: the events that are published, and how the call ends. -/
def answer (known : Known) : Order → List Event × Option (Progress Empty)
  | .opening _ _ _ => ([], some (.done (.result .null)))
  | .changing uri _ edits =>
    match edits.any Edit.partly, known uri with
    | true, _ =>
      ([], some (.done (.failed (.failed
        ("incremental change received for " ++ uri ++ "; only full sync is supported") none))))
    | false, none => ([], some (.done (.failed (.failed ("document not open: " ++ uri) none))))
    | false, some _ => ([], some (.done (.result .null)))
  | .closing uri =>
    ([⟨.publishDiagnostics, .ofPairs [("uri", .string uri), ("diagnostics", .array [])]⟩],
      some (.done (.result .null)))
  | .hovering uri false => ([], some (.done (.result (describe (known uri)))))
  | .hovering _ true => ([], some (.done (.failed .cancelled)))
  | .disposing => ([], none)

end Order

/-! ## Calls -/

/-- What is done to the engine. -/
inductive Act where
  /-- It is called. -/
  | call (call : Call) (cancelled : Option Bool)
  /-- It is disposed of. -/
  | disposal

/-- The documents after an act, and how it is answered. -/
def Act.perform (documents : Documents) : Act → Documents × List Event × Option (Progress Empty)
  | .call asked cancelled =>
    let (documents, turn) := placeholder.begin asked cancelled documents
    (documents, turn.events, some turn.progress)
  | .disposal =>
    let (documents, events) := placeholder.dispose documents
    (documents, events, none)

/-- Parameters name a document. -/
structure Names (params document : Json) (uri : String) : Prop where
  /-- They have the document. -/
  there : params.get? "textDocument" = some document
  /-- It has the URI. -/
  named : document.get? "uri" = some (.string uri)

/-- A value is a change as it is written. -/
structure Edit.WrittenAs (edit : Edit) (change : Json) : Prop where
  /-- It has a range if it is one of a part. -/
  range : (change.get? "range").isSome = edit.partly
  /-- It has the text. -/
  text : change.get? "text" = some (.string edit.text)

/-- An act carries an order. -/
inductive Act.Carries : Act → Order → Prop where
  /-- A call that tells of an opened document. -/
  | opening {params document : Json} {uri text : String} {version : Int} (cancelled : Option Bool)
      (names : Names params document uri)
      (numbered : document.get? "version" = some (.ofInt version))
      (filled : document.get? "text" = some (.string text)) :
      Carries (.call ⟨.notice .didOpen, params⟩ cancelled) (.opening uri version text)
  /-- A call that tells of a changed document. -/
  | changing {params document : Json} {uri : String} {version : Int} {changes : List Json}
      {edits : List Edit} (cancelled : Option Bool) (names : Names params document uri)
      (numbered : document.get? "version" = some (.ofInt version))
      (listed : params.get? "contentChanges" = some (.array changes))
      (written : List.Forall₂ Edit.WrittenAs edits changes) :
      Carries (.call ⟨.notice .didChange, params⟩ cancelled) (.changing uri version edits)
  /-- A call that tells of a closed document. -/
  | closing {params document : Json} {uri : String} (cancelled : Option Bool)
      (names : Names params document uri) :
      Carries (.call ⟨.notice .didClose, params⟩ cancelled) (.closing uri)
  /-- A call for a hover. -/
  | hovering {params document : Json} {uri : String} (cancelled : Option Bool)
      (names : Names params document uri) :
      Carries (.call ⟨.feature .hover, params⟩ cancelled)
        (.hovering uri (cancelled == some true))
  /-- The disposal. -/
  | disposing : Carries .disposal .disposing

/-- The table of the engine is what is known. -/
structure Keeps (documents : Documents) (known : Known) : Prop where
  /-- The documents are those that are known. -/
  get?_eq : ∀ uri, documents.get? uri = known uri
  /-- None is kept twice. -/
  distinct : documents.Distinct

namespace Keeps

variable {documents : Documents} {known : Known}

/-- Nothing is kept, and nothing is known. -/
theorem empty : Keeps .empty fun _ => none :=
  ⟨fun _ => rfl, List.nodup_nil⟩

/-- A document is put in. -/
theorem insert (keeps : Keeps documents known) (uri : String) (document : Document) :
    Keeps (documents.insert uri document) (Function.update known uri (some document)) := by
  refine ⟨fun other => ?_, keeps.distinct.insert uri document⟩
  rw [Documents.get?_insert_eq, Function.update_apply, keeps.get?_eq]

/-- A document is forgotten. -/
theorem erase (keeps : Keeps documents known) (uri : String) :
    Keeps (documents.erase uri) (Function.update known uri none) := by
  refine ⟨fun other => ?_, keeps.distinct.erase uri⟩
  rw [Documents.get?_erase, Function.update_apply, keeps.get?_eq]

end Keeps

/-! ## Calls of orders -/

/-- A change as it is written. -/
def Edit.written (edit : Edit) : Json :=
  let start := Json.ofPairs [("line", .ofNat 0), ("character", .ofNat 0)]
  if edit.partly then
    .ofPairs [("range", .ofPairs [("start", start), ("end", start)]), ("text", .string edit.text)]
  else .ofPairs [("text", .string edit.text)]

/-- The act that carries an order. -/
def Order.act : Order → Act
  | .opening uri version text =>
    .call ⟨.notice .didOpen, .ofPairs [("textDocument", .ofPairs [("uri", .string uri),
      ("languageId", .string "plaintext"), ("version", .ofInt version), ("text", .string text)])]⟩
      none
  | .changing uri version edits =>
    .call ⟨.notice .didChange, .ofPairs [
      ("textDocument", .ofPairs [("uri", .string uri), ("version", .ofInt version)]),
      ("contentChanges", .array (edits.map Edit.written))]⟩ none
  | .closing uri =>
    .call ⟨.notice .didClose, .ofPairs [("textDocument", .ofPairs [("uri", .string uri)])]⟩ none
  | .hovering uri cancelled =>
    .call ⟨.feature .hover, .ofPairs [("textDocument", .ofPairs [("uri", .string uri)]),
      ("position", .ofPairs [("line", .ofNat 0), ("character", .ofNat 0)])]⟩ (some cancelled)
  | .disposing => .disposal

section Reading

variable {params document : Json} {uri : String}

/-- A member of the document that parameters name. -/
theorem Names.at?_eq (names : Names params document uri) (key : String) :
    at? params ["textDocument", key] = document.get? key := by
  simp [at?, names.there]

/-- The document is told by its URI. -/
theorem Names.uriOf_eq (names : Names params document uri) : uriOf params = uri := by
  rw [uriOf, textAt, names.at?_eq, names.named]
  rfl

/-- What the engine looks at in changes is what they are written of. -/
theorem map_of_written {edits : List Edit} {changes : List Json}
    (written : List.Forall₂ Edit.WrittenAs edits changes) :
    changes.map (fun change => ((change.get? "range").isSome, textAt change ["text"])) =
      edits.map fun edit => (edit.partly, edit.text) := by
  induction written with
  | nil => rfl
  | cons first _ ih =>
    rw [List.map_cons, List.map_cons, ih, first.range]
    simp [textAt, at?, first.text, Json.string?]

/-- A change of a document, by what its parameters carry. -/
theorem didChange_eq {version : Int} {changes : List Json} {edits : List Edit}
    (names : Names params document uri)
    (numbered : document.get? "version" = some (.ofInt version))
    (listed : params.get? "contentChanges" = some (.array changes))
    (written : List.Forall₂ Edit.WrittenAs edits changes) (documents : Documents) :
    didChange params documents =
      match edits.any Edit.partly, documents.get? uri with
      | true, _ => .error (.failed
        ("incremental change received for " ++ uri ++ "; only full sync is supported") none)
      | false, none => .error (.failed ("document not open: " ++ uri) none)
      | false, some document => .ok (documents.insert uri
        ⟨version, (edits.getLast?.map Edit.text).getD document.text⟩) := by
  have same := map_of_written written
  have ranges : (changes.any fun change => (change.get? "range").isSome) =
      edits.any Edit.partly := by
    have firsts := congrArg (List.any · Prod.fst) same
    rw [List.any_map, List.any_map] at firsts
    exact firsts
  have last : (changes.getLast?.map fun change => textAt change ["text"]) =
      edits.getLast?.map Edit.text := by
    have seconds := congrArg (fun list => list.getLast?.map Prod.snd) same
    rw [List.getLast?_map, List.getLast?_map, Option.map_map, Option.map_map] at seconds
    exact seconds
  have version_eq : intAt params ["textDocument", "version"] = version := by
    rw [intAt, names.at?_eq, numbered]
    rfl
  unfold didChange
  rw [listed]
  simp only [Option.bind_some, Json.array?, Option.getD_some, ranges, names.uriOf_eq, version_eq,
    ← last]
  cases edits.any Edit.partly with
  | true => rfl
  | false =>
    cases documents.get? uri with
    | none => rfl
    | some document => cases changes.getLast? <;> rfl

end Reading

/-! ## Runs -/

/-- An act does what the order says that it carries. -/
theorem Act.Carries.performed {act : Act} {order : Order} (carries : act.Carries order)
    {documents : Documents} {known : Known} (keeps : Keeps documents known) :
    Keeps (act.perform documents).1 (order.follow known) ∧
      (act.perform documents).2 = order.answer known := by
  cases carries with
  | @opening params document uri text version cancelled names numbered filled =>
    have opened : didOpen params documents = documents.insert uri ⟨version, text⟩ := by
      rw [didOpen, names.uriOf_eq, intAt, textAt, names.at?_eq, names.at?_eq, numbered, filled]
      rfl
    have performed : Act.perform documents (.call ⟨.notice .didOpen, params⟩ cancelled) =
        (documents.insert uri ⟨version, text⟩, [], some (.done (.result .null))) := by
      rw [← opened]
      rfl
    rw [performed]
    exact ⟨keeps.insert uri _, rfl⟩
  | @changing params document uri version changes edits cancelled names numbered listed written =>
    have changed := didChange_eq names numbered listed written documents
    rw [keeps.get?_eq] at changed
    simp only [Act.perform, placeholder, begin, changed, Order.follow, Order.answer]
    cases edits.any Edit.partly with
    | true => exact ⟨keeps, rfl⟩
    | false =>
      cases known uri with
      | none => exact ⟨keeps, rfl⟩
      | some before => exact ⟨keeps.insert uri _, rfl⟩
  | @closing params document uri cancelled names =>
    have performed : Act.perform documents (.call ⟨.notice .didClose, params⟩ cancelled) =
        (documents.erase uri, [clearEvent uri], some (.done (.result .null))) := by
      rw [← names.uriOf_eq]
      rfl
    rw [performed]
    exact ⟨keeps.erase uri, rfl⟩
  | @hovering params document uri cancelled names =>
    simp only [Act.perform, placeholder, begin]
    cases cancelled == some true with
    | true => exact ⟨keeps, rfl⟩
    | false =>
      have described : hover params documents = describe (known uri) := by
        rw [hover_eq, names.uriOf_eq, keeps.get?_eq]
      refine ⟨keeps, ?_⟩
      rw [Order.answer, ← described]
      rfl
  | disposing => exact ⟨.empty, rfl⟩

section Decoded

open Json

variable {place : Place} {raw value : Json}

/-- A reference that was read is a text. -/
theorem string_of_check_uri (checked : Shape.check place .uri raw = .ok value) :
    ∃ text, value = .string text := by
  rw [Shape.check] at checked
  unfold checkUri at checked
  split at checked
  · next text =>
    split at checked
    · cases checked
      exact ⟨text, rfl⟩
    · cases checked
  · cases checked

/-- A text that was read is one. -/
theorem string_of_check_text (checked : Shape.check place .text raw = .ok value) :
    ∃ text, value = .string text := by
  have content : (Field.required "" .text).content place (some raw) = some value :=
    congrArg Except.toOption checked
  exact (content_text_iff.mp content).2

/-- An integer that was read is one. -/
theorem int_of_check_integer {type : IntegerType}
    (checked : Shape.check place (.integer type) raw = .ok value) :
    ∃ number, value = .ofInt number := by
  have content : (Field.required "" (.integer type)).content place (some raw) = some value :=
    congrArg Except.toOption checked
  obtain ⟨-, number, same, -⟩ := content_integer_iff.mp content
  exact ⟨number, same⟩

/-- The elements of a list that was read are of its shape. -/
theorem checkEach_mem {check : Json → Except Mismatch Json} {list items : List Json}
    (checked : checkEach check list = .ok items) {item : Json} (found : item ∈ items) :
    ∃ raw, check raw = .ok item := by
  induction list generalizing items with
  | nil =>
    cases checked
    cases found
  | cons first rest ih =>
    rw [checkEach] at checked
    split at checked
    · cases checked
    · next value passed =>
      obtain ⟨others, further, rfl⟩ := map_eq_ok_iff.mp checked
      rcases List.mem_cons.mp found with rfl | later
      · exact ⟨first, passed⟩
      · exact ih further later

/-- A change that was read is one. -/
theorem exists_edit (checked : Shape.check place Protocol.contentChange raw = .ok value) :
    ∃ edit : Edit, edit.WrittenAs value := by
  obtain ⟨_, text, isText, there⟩ :=
    check_of_check_record (by decide) checked (.tail _ (.tail _ (.head _)))
  obtain ⟨text, rfl⟩ := string_of_check_text isText
  exact ⟨⟨(value.get? "range").isSome, text⟩, rfl, there⟩

/-- The changes that were read are some. -/
theorem exists_edits (checked : Shape.check place (.list Protocol.contentChange) raw = .ok value) :
    ∃ changes edits, value = .array changes ∧ List.Forall₂ Edit.WrittenAs edits changes := by
  cases raw with
  | array list =>
    rw [Shape.check] at checked
    obtain ⟨changes, each, rfl⟩ := map_eq_ok_iff.mp checked
    have written : ∀ change ∈ changes, ∃ edit : Edit, edit.WrittenAs change := fun change found =>
      (checkEach_mem each found).elim fun _ => exists_edit
    clear each checked
    suffices edits : ∃ edits, List.Forall₂ Edit.WrittenAs edits changes from
      edits.elim fun edits all => ⟨changes, edits, rfl, all⟩
    induction changes with
    | nil => exact ⟨[], .nil⟩
    | cons change changes ih =>
      obtain ⟨first, others⟩ := List.forall_mem_cons.mp written
      obtain ⟨edit, here⟩ := first
      obtain ⟨edits, there⟩ := ih others
      exact ⟨edit :: edits, .cons here there⟩
  | _ => simp [Shape.check] at checked

/-- Parameters that were read name a document, which is of its shape. -/
theorem exists_names {name inner : String} {fields innerFields : List (Json.Field Shape)}
    {params : Json}
    (distinct : (fields.map Field.name).Nodup) (distinctInner : (innerFields.map Field.name).Nodup)
    (checked : Shape.check place (.record name fields) raw = .ok params)
    (found : .required "textDocument" (.record inner innerFields) ∈ fields)
    (identified : .required "uri" .uri ∈ innerFields) :
    ∃ raw document uri, Shape.check place (.record inner innerFields) raw = .ok document ∧
      Names params document uri := by
  obtain ⟨raw, document, isDocument, there⟩ := check_of_check_record distinct checked found
  obtain ⟨_, uri, isUri, named⟩ := check_of_check_record distinctInner isDocument identified
  obtain ⟨uri, rfl⟩ := string_of_check_uri isUri
  exact ⟨raw, document, uri, isDocument, there, named⟩

/-- The members of a token are of no other key. -/
theorem key_of_withProgress {members : Members} {list : List (String × Json)}
    (checked : checkParts [Protocol.withProgress] members = .ok list) {pair : String × Json}
    (found : pair ∈ list) : pair.1 = "workDoneToken" := by
  obtain ⟨known, _, _, _, -, filled, none, rfl⟩ := exists_of_checkParts checked
  cases none
  obtain ⟨-, rfl⟩ := fillAbsent_eq_ok_iff.mp filled
  rw [List.append_nil] at found
  obtain ⟨field, there, rfl⟩ := name_of_mem_membersOf found
  rw [List.mem_singleton.mp there]
  rfl

/-- The place that was read with a request for a hover names a document. -/
theorem exists_names_of_hover {params : Json}
    (checked : Shape.check place Protocol.hoverParams raw = .ok params) :
    ∃ document uri, Names params document uri := by
  cases raw with
  | object members =>
    rw [Protocol.hoverParams, Shape.check] at checked
    split at checked
    · cases checked
    · rw [fillAbsent] at checked
      obtain ⟨spread, parts, rfl⟩ := map_eq_ok_iff.mp checked
      obtain ⟨known, _, own, token, passed, filled, further, rfl⟩ := exists_of_checkParts parts
      obtain ⟨_, document, isDocument, holds⟩ :=
        check_of_fillAbsent (by decide) passed filled (.head _) rfl
      obtain ⟨_, uri, isUri, named⟩ := check_of_check_record (by decide) isDocument (.head _)
      obtain ⟨uri, rfl⟩ := string_of_check_uri isUri
      refine ⟨document, uri, ?_, named⟩
      rw [List.nil_append, get?_ofPairs_append]
      · obtain ⟨-, rfl⟩ := fillAbsent_eq_ok_iff.mp filled
        exact get?_membersOf_of_keeps (by decide) (.head _) rfl holds
      · intro pair found same
        exact absurd (same.symm.trans (key_of_withProgress further found)) (by decide)
  | _ => simp [Protocol.hoverParams, Shape.check] at checked

/-- Every call about a document that the gateway decodes carries an order. -/
theorem carries_of_decode {operation : Operation} {params : Json} {call : Call}
    (decoded : Dispatch.decode operation params = .ok call)
    (about : operation ∈ [.notice .didOpen, .notice .didChange, .notice .didClose, .feature .hover])
    (cancelled : Option Bool) : ∃ order, (Act.call call cancelled).Carries order := by
  unfold Dispatch.decode at decoded
  split at decoded
  · next canonical checked =>
    cases decoded
    simp only [List.mem_cons, List.not_mem_nil, or_false] at about
    rcases about with rfl | rfl | rfl | rfl
    · obtain ⟨_, document, uri, isDocument, names⟩ :=
        exists_names (by decide) (by decide) checked (.head _) (.head _)
      obtain ⟨_, version, isVersion, numbered⟩ :=
        check_of_check_record (by decide) isDocument (.tail _ (.tail _ (.head _)))
      obtain ⟨_, text, isText, filled⟩ :=
        check_of_check_record (by decide) isDocument (.tail _ (.tail _ (.tail _ (.head _))))
      obtain ⟨version, rfl⟩ := int_of_check_integer isVersion
      obtain ⟨text, rfl⟩ := string_of_check_text isText
      exact ⟨_, .opening cancelled names numbered filled⟩
    · obtain ⟨_, document, uri, isDocument, names⟩ :=
        exists_names (by decide) (by decide) checked (.head _) (.head _)
      obtain ⟨_, version, isVersion, numbered⟩ :=
        check_of_check_record (by decide) isDocument (.tail _ (.head _))
      obtain ⟨_, changes, isList, listed⟩ :=
        check_of_check_record (by decide) checked (.tail _ (.head _))
      obtain ⟨version, rfl⟩ := int_of_check_integer isVersion
      obtain ⟨changes, edits, rfl, written⟩ := exists_edits isList
      exact ⟨_, .changing cancelled names numbered listed written⟩
    · obtain ⟨_, document, uri, -, names⟩ :=
        exists_names (by decide) (by decide) checked (.head _) (.head _)
      exact ⟨_, .closing cancelled names⟩
    · obtain ⟨document, uri, names⟩ := exists_names_of_hover checked
      exact ⟨_, .hovering cancelled names⟩
  · cases decoded

end Decoded

end Placeholder

end LspGateway.Engine
