import LspGateway.Protocol.Text

/-!
# Shapes of parameters

What the methods of the protocol, and the events of the engine, carry.
-/

namespace LspGateway.Protocol

open Json (Shape Spread)
open Json.Field (required maybe nullable defaulted)

/-! ## Parts that several methods share -/

/-- A place in a document, as a part of parameters. -/
def atPosition : Spread Shape :=
  .record "TextDocumentPositionParams"
    [required "textDocument" documentIdentifier, required "position" position]

/-- A token for progress reports, as a part of parameters. -/
def withProgress : Spread Shape :=
  .record "WorkDoneProgressParams" [maybe "workDoneToken" numberOrText]

/-- A token for partial results, as a part of parameters. -/
def withPartialResults : Spread Shape :=
  .record "PartialResultParams" [maybe "partialResultToken" numberOrText]

/-- Parameters that consist of a place and the two tokens. -/
def placeParams (name : String) (fields : List (Json.Field Shape)) : Shape :=
  .composite name fields [atPosition, withProgress, withPartialResults]

/-- Parameters that name a document, with both tokens. -/
def documentParams (name : String) (fields : List (Json.Field Shape)) : Shape :=
  .composite name (required "textDocument" documentIdentifier :: fields)
    [withProgress, withPartialResults]

/-! ## The handshake -/

/-- Capabilities for single features, under their names. What a client says of a feature is
taken as it is, and handed on as it is: its members are neither checked nor left out. -/
def featureCapabilities (names : List String) : List (Json.Field Shape) :=
  names.map (maybe · .any)

/-- What the client can do with its workspace. -/
def workspaceCapabilities : Shape :=
  .record "WorkspaceClientCapabilities"
    (maybe "applyEdit" .boolean ::
      featureCapabilities ["workspaceEdit", "didChangeConfiguration", "didChangeWatchedFiles",
        "symbol", "executeCommand"] ++
      [maybe "workspaceFolders" .boolean, maybe "configuration" .boolean] ++
      featureCapabilities ["semanticTokens", "codeLens", "fileOperations", "inlineValue",
        "inlayHint", "diagnostic"])

/-- What the client can do with documents. -/
def documentCapabilities : Shape :=
  .record "TextDocumentClientCapabilities"
    (featureCapabilities ["synchronization", "completion", "hover", "signatureHelp", "references",
      "documentHighlight", "documentSymbol", "formatting", "rangeFormatting", "onTypeFormatting",
      "declaration", "definition", "typeDefinition", "implementation", "codeAction", "codeLens",
      "documentLink", "colorProvider", "rename", "publishDiagnostics", "foldingRange",
      "selectionRange", "linkedEditingRange", "callHierarchy", "semanticTokens", "moniker",
      "typeHierarchy", "inlineValue", "inlayHint", "diagnostic"])

/-- What the client can do, in the groups of the protocol. Each group is checked down to the
members that it names. What is left out is the make-up of a single feature's capabilities,
such as those for completions: nothing in the gateway reads them. -/
def clientCapabilities : Shape :=
  .record "ClientCapabilities"
    [maybe "workspace" workspaceCapabilities, maybe "textDocument" documentCapabilities,
      maybe "notebookDocument" (.record "NotebookDocumentClientCapabilities"
        [required "synchronization" .any]),
      maybe "window" (.record "WindowClientCapabilities"
        (maybe "workDoneProgress" .boolean ::
          featureCapabilities ["showMessage", "showDocument"])),
      maybe "general" (.record "GeneralClientCapabilities"
        (featureCapabilities ["regularExpressions", "markdown", "staleRequestSupport"] ++
          [maybe "positionEncodings" (.list .text)])),
      maybe "experimental" .any]

/-- The parameters that open the handshake. -/
def openingParams : Shape :=
  .composite "InitializeParams"
    [nullable "processId" (.integer .u32), maybe "rootPath" .text, nullable "rootUri" .uri,
      maybe "initializationOptions" .any, required "capabilities" clientCapabilities,
      maybe "trace" (.variant ["off", "messages", "verbose"]),
      maybe "workspaceFolders" (.list (.record "WorkspaceFolder"
        [required "uri" .uri, required "name" .text])),
      maybe "clientInfo" (.record "ClientInfo" [required "name" .text, maybe "version" .text]),
      maybe "locale" .text]
    [withProgress]

/-- The parameters that confirm the handshake: none. -/
def confirmationParams : Shape :=
  .record "InitializedParams" []

/-- The parameters of a cancellation. -/
def cancelParams (id : Shape) : Shape :=
  .record "CancelParams" [required "id" id]

/-! ## Documents -/

/-- A document was opened. -/
def didOpenParams : Shape :=
  .record "DidOpenTextDocumentParams" [required "textDocument" documentItem]

/-- A document was changed. -/
def didChangeParams : Shape :=
  .record "DidChangeTextDocumentParams"
    [required "textDocument" versionedIdentifier, required "contentChanges" (.list contentChange)]

/-- A document is about to be saved. -/
def willSaveParams : Shape :=
  .record "WillSaveTextDocumentParams"
    [required "textDocument" documentIdentifier, required "reason" code]

/-- A document was saved. -/
def didSaveParams : Shape :=
  .record "DidSaveTextDocumentParams"
    [required "textDocument" documentIdentifier, maybe "text" .text]

/-- A document was closed. -/
def didCloseParams : Shape :=
  .record "DidCloseTextDocumentParams" [required "textDocument" documentIdentifier]

/-! ## Features -/

/-- A request for completions. -/
def completionParams : Shape :=
  placeParams "CompletionParams"
    [maybe "context" (.record "CompletionContext"
      [required "triggerKind" code, maybe "triggerCharacter" .text])]

/-- One completion. -/
def completionItem : Shape :=
  .record "CompletionItem"
    [required "label" .text,
      maybe "labelDetails" (.record "CompletionItemLabelDetails"
        [maybe "detail" .text, maybe "description" .text]),
      maybe "kind" code, maybe "detail" .text, maybe "documentation" documentation,
      maybe "deprecated" .boolean, maybe "preselect" .boolean, maybe "sortText" .text,
      maybe "filterText" .text, maybe "insertText" .text, maybe "insertTextFormat" code,
      maybe "insertTextMode" code,
      maybe "textEdit" (.oneOf "CompletionTextEdit"
        [textEdit, .record "InsertReplaceEdit"
          [required "newText" .text, required "insert" range, required "replace" range]]),
      maybeList "additionalTextEdits" textEdit, maybe "command" command,
      maybeList "commitCharacters" .text, maybe "data" .any, maybeList "tags" code]

/-- A request for the hover text. -/
def hoverParams : Shape :=
  .composite "HoverParams" [] [atPosition, withProgress]

/-- What is known of a signature. -/
def signatureHelp : Shape :=
  .record "SignatureHelp"
    [required "signatures" (.list (.record "SignatureInformation"
        [required "label" .text, maybe "documentation" documentation,
          maybeList "parameters" (.record "ParameterInformation"
            [required "label" (.oneOf "ParameterLabel"
                [.text, .tuple [.integer .u32, .integer .u32]]),
              maybe "documentation" documentation]),
          maybe "activeParameter" (.integer .u32)])),
      maybe "activeSignature" (.integer .u32), maybe "activeParameter" (.integer .u32)]

/-- A request for signatures. -/
def signatureHelpParams : Shape :=
  .composite "SignatureHelpParams"
    [maybe "context" (.record "SignatureHelpContext"
      [required "triggerKind" code, maybe "triggerCharacter" .text,
        required "isRetrigger" .boolean, maybe "activeSignatureHelp" signatureHelp])]
    [atPosition, withProgress]

/-- A request for the definition of what stands at a place. -/
def definitionParams : Shape := placeParams "GotoDefinitionParams" []

/-- A request for all uses of what stands at a place. -/
def referenceParams : Shape :=
  placeParams "ReferenceParams"
    [required "context" (.record "ReferenceContext" [required "includeDeclaration" .boolean])]

/-- A request for the places to be highlighted. -/
def documentHighlightParams : Shape := placeParams "DocumentHighlightParams" []

/-- A request for the symbols of a document. -/
def documentSymbolParams : Shape := documentParams "DocumentSymbolParams" []

/-- A request for what can be done about a stretch of a document. -/
def codeActionParams : Shape :=
  documentParams "CodeActionParams"
    [required "range" range,
      required "context" (.record "CodeActionContext"
        [required "diagnostics" (.list diagnostic), maybeList "only" .text,
          maybe "triggerKind" code])]

/-- A request for the lenses of a document. -/
def codeLensParams : Shape := documentParams "CodeLensParams" []

/-- A lens. -/
def codeLens : Shape :=
  .record "CodeLens" [required "range" range, maybe "command" command, maybe "data" .any]

/-- A request for the links of a document. -/
def documentLinkParams : Shape := documentParams "DocumentLinkParams" []

/-- A link. -/
def documentLink : Shape :=
  .record "DocumentLink"
    [required "range" range, maybe "target" .uri, maybe "tooltip" .text, maybe "data" .any]

/-- How to format; further options may have any name. -/
def formattingOptions : Shape :=
  .composite "FormattingOptions"
    [required "tabSize" (.integer .u32), required "insertSpaces" .boolean,
      maybe "trimTrailingWhitespace" .boolean, maybe "insertFinalNewline" .boolean,
      maybe "trimFinalNewlines" .boolean]
    [.remaining (.oneOf "FormattingProperty" [.boolean, .integer .i32, .text])]

/-- A request to format a document. -/
def formattingParams : Shape :=
  .composite "DocumentFormattingParams"
    [required "textDocument" documentIdentifier, required "options" formattingOptions]
    [withProgress]

/-- A request to format a stretch of a document. -/
def rangeFormattingParams : Shape :=
  .composite "DocumentRangeFormattingParams"
    [required "textDocument" documentIdentifier, required "range" range,
      required "options" formattingOptions]
    [withProgress]

/-- A request to format while typing. -/
def onTypeFormattingParams : Shape :=
  .composite "DocumentOnTypeFormattingParams"
    [required "ch" .text, required "options" formattingOptions] [atPosition]

/-- A request to rename what stands at a place. -/
def renameParams : Shape :=
  .composite "RenameParams" [required "newName" .text] [atPosition, withProgress]

/-! ## The workspace -/

/-- The configuration was changed. -/
def didChangeConfigurationParams : Shape :=
  .record "DidChangeConfigurationParams" [required "settings" .any]

/-- Watched files were changed. -/
def didChangeWatchedFilesParams : Shape :=
  .record "DidChangeWatchedFilesParams"
    [required "changes" (.list (.record "FileEvent" [required "uri" .uri, required "type" code]))]

/-- A request for symbols by name. -/
def workspaceSymbolParams : Shape :=
  .composite "WorkspaceSymbolParams" [required "query" .text] [withPartialResults, withProgress]

/-- A request to carry out a command. -/
def executeCommandParams : Shape :=
  .composite "ExecuteCommandParams"
    [required "command" .text, defaulted "arguments" (.list .any) (.array [])] [withProgress]

/-! ## Events of the engine -/

/-- A line for the log of the client. -/
def logMessageParams : Shape :=
  .record "LogMessageParams" [required "type" code, required "message" .text]

/-- A message to be shown to the user. -/
def showMessageParams : Shape :=
  .record "ShowMessageParams" [required "type" code, required "message" .text]

/-- The problems of a document. -/
def publishDiagnosticsParams : Shape :=
  .record "PublishDiagnosticsParams"
    [required "uri" .uri, required "diagnostics" (.list diagnostic),
      maybe "version" (.integer .i32)]

/-- An edit that the engine wants carried out. -/
def applyEditParams : Shape :=
  .record "ApplyWorkspaceEditParams" [maybe "label" .text, required "edit" workspaceEdit]

/-- Capabilities that the engine registers. -/
def registrationParams : Shape :=
  .record "RegistrationParams"
    [required "registrations" (.list (.record "Registration"
      [required "id" .text, required "method" .text, maybe "registerOptions" .any]))]

/-- Capabilities that the engine withdraws. -/
def unregistrationParams : Shape :=
  .record "UnregistrationParams"
    [required "unregisterations" (.list (.record "Unregistration"
      [required "id" .text, required "method" .text]))]

end LspGateway.Protocol
