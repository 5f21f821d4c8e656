import LspGateway.Protocol.Results

/-!
# Methods of the protocol

The requests and notifications that an engine may get to see. Each has the name of its method
and the shape of its parameters; a request also has the shape of its result. The names here are
those of the protocol: what a table leads a method to, what an engine is called with and what it
says of itself refer to them, each in its own place.
-/

namespace LspGateway.Protocol

/-- A request of the protocol. -/
inductive Request where
  /-- Edits before a document is saved. -/
  | willSaveWaitUntil
  /-- Completions. -/
  | completion
  /-- The rest of one completion. -/
  | resolveCompletionItem
  /-- The hover text. -/
  | hover
  /-- Signatures. -/
  | signatureHelp
  /-- The definition of what stands at a place. -/
  | gotoDefinition
  /-- All uses of what stands at a place. -/
  | references
  /-- Places to be highlighted. -/
  | documentHighlight
  /-- The symbols of a document. -/
  | documentSymbol
  /-- What can be done about a stretch of a document. -/
  | codeAction
  /-- The lenses of a document. -/
  | codeLens
  /-- The rest of one lens. -/
  | codeLensResolve
  /-- The links of a document. -/
  | documentLink
  /-- The rest of one link. -/
  | documentLinkResolve
  /-- The formatting of a document. -/
  | formatting
  /-- The formatting of a stretch. -/
  | rangeFormatting
  /-- The formatting while typing. -/
  | onTypeFormatting
  /-- The renaming of what stands at a place. -/
  | rename
  /-- Symbols of the workspace by name. -/
  | workspaceSymbol
  /-- A command to be carried out. -/
  | executeCommand
  deriving DecidableEq, Repr

namespace Request

/-- The method of a request. -/
def method : Request → String
  | .willSaveWaitUntil => "textDocument/willSaveWaitUntil"
  | .completion => "textDocument/completion"
  | .resolveCompletionItem => "completionItem/resolve"
  | .hover => "textDocument/hover"
  | .signatureHelp => "textDocument/signatureHelp"
  | .gotoDefinition => "textDocument/definition"
  | .references => "textDocument/references"
  | .documentHighlight => "textDocument/documentHighlight"
  | .documentSymbol => "textDocument/documentSymbol"
  | .codeAction => "textDocument/codeAction"
  | .codeLens => "textDocument/codeLens"
  | .codeLensResolve => "codeLens/resolve"
  | .documentLink => "textDocument/documentLink"
  | .documentLinkResolve => "documentLink/resolve"
  | .formatting => "textDocument/formatting"
  | .rangeFormatting => "textDocument/rangeFormatting"
  | .onTypeFormatting => "textDocument/onTypeFormatting"
  | .rename => "textDocument/rename"
  | .workspaceSymbol => "workspace/symbol"
  | .executeCommand => "workspace/executeCommand"

/-- The shape of the parameters of a request. -/
def params : Request → Json.Shape
  | .willSaveWaitUntil => willSaveParams
  | .completion => completionParams
  | .resolveCompletionItem => completionItem
  | .hover => hoverParams
  | .signatureHelp => signatureHelpParams
  | .gotoDefinition => definitionParams
  | .references => referenceParams
  | .documentHighlight => documentHighlightParams
  | .documentSymbol => documentSymbolParams
  | .codeAction => codeActionParams
  | .codeLens => codeLensParams
  | .codeLensResolve => Protocol.codeLens
  | .documentLink => documentLinkParams
  | .documentLinkResolve => Protocol.documentLink
  | .formatting => formattingParams
  | .rangeFormatting => rangeFormattingParams
  | .onTypeFormatting => onTypeFormattingParams
  | .rename => renameParams
  | .workspaceSymbol => workspaceSymbolParams
  | .executeCommand => executeCommandParams

/-- The shape of the result of a request. -/
def result : Request → Json.Shape
  | .willSaveWaitUntil | .formatting | .rangeFormatting | .onTypeFormatting => editsResult
  | .completion => completionResult
  | .resolveCompletionItem => completionItem
  | .hover => hoverResult
  | .signatureHelp => signatureHelpResult
  | .gotoDefinition => definitionResult
  | .references => referencesResult
  | .documentHighlight => documentHighlightResult
  | .documentSymbol => documentSymbolResult
  | .codeAction => codeActionResult
  | .codeLens => codeLensResult
  | .codeLensResolve => Protocol.codeLens
  | .documentLink => documentLinkResult
  | .documentLinkResolve => Protocol.documentLink
  | .rename => renameResult
  | .workspaceSymbol => workspaceSymbolResult
  | .executeCommand => executeCommandResult

end Request

/-- A notification of the protocol. -/
inductive Notification where
  /-- A document was opened. -/
  | didOpenTextDocument
  /-- A document was changed. -/
  | didChangeTextDocument
  /-- A document is about to be saved. -/
  | willSaveTextDocument
  /-- A document was saved. -/
  | didSaveTextDocument
  /-- A document was closed. -/
  | didCloseTextDocument
  /-- The configuration was changed. -/
  | didChangeConfiguration
  /-- Watched files were changed. -/
  | didChangeWatchedFiles
  deriving DecidableEq, Repr

namespace Notification

/-- The method of a notification. -/
def method : Notification → String
  | .didOpenTextDocument => "textDocument/didOpen"
  | .didChangeTextDocument => "textDocument/didChange"
  | .willSaveTextDocument => "textDocument/willSave"
  | .didSaveTextDocument => "textDocument/didSave"
  | .didCloseTextDocument => "textDocument/didClose"
  | .didChangeConfiguration => "workspace/didChangeConfiguration"
  | .didChangeWatchedFiles => "workspace/didChangeWatchedFiles"

/-- The shape of the parameters of a notification. -/
def params : Notification → Json.Shape
  | .didOpenTextDocument => didOpenParams
  | .didChangeTextDocument => didChangeParams
  | .willSaveTextDocument => willSaveParams
  | .didSaveTextDocument => didSaveParams
  | .didCloseTextDocument => didCloseParams
  | .didChangeConfiguration => didChangeConfigurationParams
  | .didChangeWatchedFiles => didChangeWatchedFilesParams

end Notification

end LspGateway.Protocol
