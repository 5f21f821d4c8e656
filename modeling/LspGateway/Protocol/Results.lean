import LspGateway.Protocol.Params

/-!
# Shapes of results

What the engine may answer to the methods of the protocol.
-/

namespace LspGateway.Protocol

open Json (Shape Spread)
open Json.Field (required maybe nullable defaulted)

/-- What the engine can do, as far as it is told here. -/
def serverCapabilities : Shape :=
  .record "ServerCapabilities"
    [maybe "textDocumentSync" .any, maybe "hoverProvider" .any,
      maybe "completionProvider" .any, maybe "renameProvider" .any]

/-- The answer that opens the handshake. -/
def openingResult : Shape :=
  .record "InitializeResult"
    [required "capabilities" serverCapabilities,
      maybe "serverInfo" (.record "ServerInfo" [required "name" .text, maybe "version" .text]),
      maybe "offsetEncoding" .text]

/-- Edits, or nothing. -/
def editsResult : Shape := .optional (.list textEdit)

/-- Completions, with or without the remark that there are more. -/
def completionResult : Shape :=
  .optional (.oneOf "CompletionResponse"
    [.list completionItem,
      .record "CompletionList"
        [required "isIncomplete" .boolean, required "items" (.list completionItem)]])

/-- A hover text. -/
def hoverResult : Shape :=
  .optional (.record "Hover"
    [required "contents" (.oneOf "HoverContents" [markedText, .list markedText, markup]),
      maybe "range" range])

/-- Signatures. -/
def signatureHelpResult : Shape := .optional signatureHelp

/-- One place, several places, or links. -/
def definitionResult : Shape :=
  .optional (.oneOf "GotoDefinitionResponse" [location, .list location, .list locationLink])

/-- Places. -/
def referencesResult : Shape := .optional (.list location)

/-- Places to be highlighted. -/
def documentHighlightResult : Shape :=
  .optional (.list (.record "DocumentHighlight" [required "range" range, maybe "kind" code]))

/-- A symbol and where it stands. -/
def symbolInformation : Shape :=
  .record "SymbolInformation"
    [required "name" .text, required "kind" code, maybeList "tags" code,
      maybe "deprecated" .boolean, required "location" location, maybe "containerName" .text]

/-- A symbol with the symbols inside it, down to a depth. -/
def documentSymbol : Nat → Shape
  | 0 => .any
  | depth + 1 =>
    .record "DocumentSymbol"
      [required "name" .text, maybe "detail" .text, required "kind" code, maybeList "tags" code,
        maybe "deprecated" .boolean, required "range" range, required "selectionRange" range,
        maybeList "children" (documentSymbol depth)]

/-- How deep symbols may stand inside each other: deeper than any JSON text
admits, where every level takes an array and an object. -/
def symbolDepth : Nat := 64

/-- The symbols of a document, in a row or inside each other. -/
def documentSymbolResult : Shape :=
  .optional (.oneOf "DocumentSymbolResponse"
    [.list symbolInformation, .list (documentSymbol symbolDepth)])

/-- Commands and actions. -/
def codeActionResult : Shape :=
  .optional (.list (.oneOf "CodeActionOrCommand"
    [command, .record "CodeAction"
      [required "title" .text, maybe "kind" .text, maybeList "diagnostics" diagnostic,
        maybe "edit" workspaceEdit, maybe "command" command, maybe "isPreferred" .boolean,
        maybe "disabled" (.record "CodeActionDisabled" [required "reason" .text]),
        maybe "data" .any]]))

/-- Lenses. -/
def codeLensResult : Shape := .optional (.list codeLens)

/-- Links. -/
def documentLinkResult : Shape := .optional (.list documentLink)

/-- Edits across the workspace. -/
def renameResult : Shape := .optional workspaceEdit

/-- Symbols of the workspace, the later kind with the document only. -/
def workspaceSymbolResult : Shape :=
  .optional (.oneOf "WorkspaceSymbolResponse"
    [.list symbolInformation,
      .list (.record "WorkspaceSymbol"
        [required "name" .text, required "kind" code, maybeList "tags" code,
          maybe "containerName" .text,
          required "location" (.oneOf "OneOf"
            [location, .record "WorkspaceLocation" [required "uri" .uri]]),
          maybe "data" .any])])

/-- Whatever a command returns. -/
def executeCommandResult : Shape := .optional .any

end LspGateway.Protocol
