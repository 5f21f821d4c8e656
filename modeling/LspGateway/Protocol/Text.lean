import LspGateway.Json.Shape

/-!
# Shapes around documents

Places in documents, edits, diagnostics and what goes with them. Kinds and
severities are integers of 32 bits, not restricted to the known ones.
-/

namespace LspGateway.Protocol

open Json (Shape Spread)
open Json.Field (required maybe nullable defaulted)

/-- A kind, severity or tag: an integer. -/
def code : Shape := .integer .i32

/-- A list that may be left out. -/
def maybeList (name : String) (item : Shape) : Json.Field Shape :=
  maybe name (.list item)

/-- An integer or a text, as tokens and diagnostic codes are. -/
def numberOrText : Shape :=
  .oneOf "NumberOrString" [.integer .i32, .text]

/-- A place between two characters. -/
def position : Shape :=
  .record "Position" [required "line" (.integer .u32), required "character" (.integer .u32)]

/-- A stretch of a document. -/
def range : Shape :=
  .record "Range" [required "start" position, required "end" position]

/-- A stretch of a named document. -/
def location : Shape :=
  .record "Location" [required "uri" .uri, required "range" range]

/-- A stretch of a document, told from another one. -/
def locationLink : Shape :=
  .record "LocationLink"
    [maybe "originSelectionRange" range, required "targetUri" .uri, required "targetRange" range,
      required "targetSelectionRange" range]

/-- The name of a document. -/
def documentIdentifier : Shape :=
  .record "TextDocumentIdentifier" [required "uri" .uri]

/-- The name of a document and its version. -/
def versionedIdentifier : Shape :=
  .record "VersionedTextDocumentIdentifier"
    [required "uri" .uri, required "version" (.integer .i32)]

/-- The name of a document and perhaps its version. -/
def optionallyVersionedIdentifier : Shape :=
  .record "OptionalVersionedTextDocumentIdentifier"
    [required "uri" .uri, nullable "version" (.integer .i32)]

/-- A document with its text. -/
def documentItem : Shape :=
  .record "TextDocumentItem"
    [required "uri" .uri, required "languageId" .text, required "version" (.integer .i32),
      required "text" .text]

/-- A change of a document; without range, the text is the whole document. -/
def contentChange : Shape :=
  .record "TextDocumentContentChangeEvent"
    [maybe "range" range, maybe "rangeLength" (.integer .u32), required "text" .text]

/-- A replacement of a stretch of a document. -/
def textEdit : Shape :=
  .record "TextEdit" [required "range" range, required "newText" .text]

/-- A replacement with a note. -/
def annotatedTextEdit : Shape :=
  .composite "AnnotatedTextEdit" [required "annotationId" .text]
    [.record "TextEdit" [required "range" range, required "newText" .text]]

/-- Replacements in one document. -/
def documentEdit : Shape :=
  .record "TextDocumentEdit"
    [required "textDocument" optionallyVersionedIdentifier,
      required "edits" (.list (.oneOf "OneOf" [textEdit, annotatedTextEdit]))]

/-- An option that is either set or not. -/
def fileOption (name : String) : Json.Field Shape :=
  maybe name .boolean

/-- The creation, renaming or deletion of a file. -/
def fileOperation : Shape :=
  .tagged "kind"
    [⟨"create",
      [required "uri" .uri,
        maybe "options" (.record "CreateFileOptions"
          [fileOption "overwrite", fileOption "ignoreIfExists"]),
        maybe "annotationId" .text]⟩,
      ⟨"rename",
        [required "oldUri" .uri, required "newUri" .uri,
          maybe "options" (.record "RenameFileOptions"
            [fileOption "overwrite", fileOption "ignoreIfExists"]),
          maybe "annotationId" .text]⟩,
      ⟨"delete",
        [required "uri" .uri,
          maybe "options" (.record "DeleteFileOptions"
            [fileOption "recursive", fileOption "ignoreIfNotExists",
              maybe "annotationId" .text])]⟩]

/-- Edits of documents, or those together with operations on files. -/
def documentChanges : Shape :=
  .oneOf "DocumentChanges"
    [.list documentEdit,
      .list (.oneOf "DocumentChangeOperation"
        [fileOperation, documentEdit])]

/-- A note on a change. -/
def changeAnnotation : Shape :=
  .record "ChangeAnnotation"
    [required "label" .text, maybe "needsConfirmation" .boolean, maybe "description" .text]

/-- Edits across the workspace. -/
def workspaceEdit : Shape :=
  .record "WorkspaceEdit"
    [defaulted "changes" (.optional (.dictionary true (.list textEdit))) .null,
      maybe "documentChanges" documentChanges,
      maybe "changeAnnotations" (.dictionary false changeAnnotation)]

/-- A command that the client can have carried out. -/
def command : Shape :=
  .record "Command"
    [required "title" .text, required "command" .text, maybeList "arguments" .any]

/-- A text with its markup. -/
def markup : Shape :=
  .record "MarkupContent"
    [required "kind" (.variant ["plaintext", "markdown"]), required "value" .text]

/-- A text, plain or with markup. -/
def documentation : Shape :=
  .oneOf "Documentation" [.text, markup]

/-- A text, plain or in a programming language. -/
def markedText : Shape :=
  .oneOf "MarkedString"
    [.text, .record "LanguageString" [required "language" .text, required "value" .text]]

/-- A problem in a document. -/
def diagnostic : Shape :=
  .record "Diagnostic"
    [required "range" range, maybe "severity" code, maybe "code" numberOrText,
      maybe "codeDescription" (.record "CodeDescription" [required "href" .uri]),
      maybe "source" .text, required "message" .text,
      maybeList "relatedInformation" (.record "DiagnosticRelatedInformation"
        [required "location" location, required "message" .text]),
      maybeList "tags" code, maybe "data" .any]

end LspGateway.Protocol
