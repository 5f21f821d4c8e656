import LspGateway.Engine.Bare
import LspGateway.Engine.Documents

/-!
# The placeholder engine

It keeps the texts of open documents and answers a hover with the version and
the number of lines. Everything else is accepted without effect or not served.
Its calls never wait.
-/

namespace LspGateway.Engine.Placeholder

/-- The member at the end of a path. -/
def at? (json : Json) (path : List String) : Option Json :=
  path.foldl (fun json key => json.bind fun json => json.get? key) (some json)

/-- The text at the end of a path; empty where the shape has none. -/
def textAt (json : Json) (path : List String) : String :=
  ((at? json path).bind Json.string?).getD ""

/-- The integer at the end of a path. -/
def intAt (json : Json) (path : List String) : Int :=
  ((at? json path).bind Json.int?).getD 0

/-- The URI of the document that parameters are about. -/
def uriOf (params : Json) : String :=
  textAt params ["textDocument", "uri"]

/-- The message for the log of the client. -/
def logEvent (message : String) : Event :=
  ⟨.logMessage, .ofPairs [("type", .ofNat 3), ("message", .string message)]⟩

/-- The event that withdraws all problems of a document. -/
def clearEvent (uri : String) : Event :=
  ⟨.publishDiagnostics, .ofPairs [("uri", .string uri), ("diagnostics", .array [])]⟩

/-- What the engine says of itself. -/
def openingAnswer : Json :=
  .ofPairs [
    ("capabilities", .ofPairs [("hoverProvider", .bool true), ("textDocumentSync", .ofNat 1)]),
    ("serverInfo", .ofPairs [("name", .string "courier-engine"), ("version", .string "0.1.0")])]

/-- Opens a document. -/
def didOpen (params : Json) (documents : Documents) : Documents :=
  documents.insert (uriOf params)
    ⟨intAt params ["textDocument", "version"], textAt params ["textDocument", "text"]⟩

/-- Changes a document, which must be open; every change has to carry the whole
text, and the last one wins. -/
def didChange (params : Json) (documents : Documents) : Except Error Documents :=
  let uri := uriOf params
  let changes := ((params.get? "contentChanges").bind Json.array?).getD []
  if changes.any fun change => (change.get? "range").isSome then
    .error (.failed
      ("incremental change received for " ++ uri ++ "; only full sync is supported") none)
  else match documents.get? uri with
    | none => .error (.failed ("document not open: " ++ uri) none)
    | some document =>
      let text := match changes.getLast? with
        | some change => textAt change ["text"]
        | none => document.text
      .ok (documents.insert uri ⟨intAt params ["textDocument", "version"], text⟩)

/-- The hover text of a document. -/
def hover (params : Json) (documents : Documents) : Json :=
  match documents.get? (uriOf params) with
  | none => .null
  | some document =>
    .ofPairs [("contents", .ofPairs [("kind", .string "plaintext"),
      ("value", .string s!"version {document.version}, {document.lineCount} lines")])]

/-- A notification is accepted. -/
def accepted (documents : Documents) (events : List Event) : Documents × Turn Empty :=
  (documents, ⟨events, .done (.result .null)⟩)

/-- Begins a call, which also ends it. -/
def begin (call : Call) (cancelled : Option Bool) (documents : Documents) :
    Documents × Turn Empty :=
  match call.operation with
  | .opening => (documents, .ended (.result openingAnswer))
  | .confirmation => accepted documents [logEvent "placeholder engine ready"]
  | .shutdown => accepted documents [logEvent "placeholder engine shutting down"]
  | .exit => accepted documents []
  | .notice .didOpen => accepted (didOpen call.params documents) []
  | .notice .didChange =>
    match didChange call.params documents with
    | .ok documents => accepted documents []
    | .error error => (documents, .ended (.failed error))
  | .notice .didClose =>
    accepted (documents.erase (uriOf call.params)) [clearEvent (uriOf call.params)]
  | .notice _ => accepted documents []
  | .feature .hover =>
    if cancelled == some true then (documents, .ended (.failed .cancelled))
    else (documents, .ended (.result (hover call.params documents)))
  | .feature feature => (documents, .ended (defaultOutcome (.feature feature)))

end Placeholder

/-- The engine that keeps open documents. -/
def placeholder : Engine Documents Empty where
  begin := Placeholder.begin
  resume := fun pending => pending.elim
  dispose := fun _ => (.empty, [])

end LspGateway.Engine
