import LspGateway.Protocol.Methods

/-!
# Operations of the engine

What an engine can be asked to do: the steps of a session's life, notifications
about documents and the workspace, and requests for features. Each of the latter
two is called for by a request or a notification of the protocol, from which it has
the name of its method and the shape of what it is given.
-/

namespace LspGateway.Engine

/-- A request for a feature. -/
inductive Feature where
  /-- Edits before a document is saved. -/
  | willSaveWaitUntil
  /-- Completions. -/
  | completion
  /-- The rest of one completion. -/
  | resolveCompletion
  /-- The hover text. -/
  | hover
  /-- Signatures. -/
  | signatureHelp
  /-- The definition of what stands at a place. -/
  | definition
  /-- All uses of what stands at a place. -/
  | references
  /-- Places to be highlighted. -/
  | documentHighlight
  /-- The symbols of a document. -/
  | documentSymbol
  /-- What can be done about a stretch of a document. -/
  | codeAction
  /-- The lenses of a document. -/
  | codeLens
  /-- The rest of one lens. -/
  | resolveLens
  /-- The links of a document. -/
  | documentLink
  /-- The rest of one link. -/
  | resolveLink
  /-- The formatting of a document. -/
  | formatting
  /-- The formatting of a stretch. -/
  | rangeFormatting
  /-- The formatting while typing. -/
  | onTypeFormatting
  /-- The renaming of what stands at a place. -/
  | rename
  /-- Symbols of the workspace by name. -/
  | workspaceSymbol
  /-- A command to be carried out. -/
  | executeCommand
  deriving DecidableEq, Repr

/-- A notification about documents or the workspace. -/
inductive Notice where
  /-- A document was opened. -/
  | didOpen
  /-- A document was changed. -/
  | didChange
  /-- A document is about to be saved. -/
  | willSave
  /-- A document was saved. -/
  | didSave
  /-- A document was closed. -/
  | didClose
  /-- The configuration was changed. -/
  | didChangeConfiguration
  /-- Watched files were changed. -/
  | didChangeWatchedFiles
  deriving DecidableEq, Repr

namespace Feature

/-- The request that an engine is called for with a feature. -/
def request : Feature → Protocol.Request
  | .willSaveWaitUntil => .willSaveWaitUntil
  | .completion => .completion
  | .resolveCompletion => .resolveCompletionItem
  | .hover => .hover
  | .signatureHelp => .signatureHelp
  | .definition => .gotoDefinition
  | .references => .references
  | .documentHighlight => .documentHighlight
  | .documentSymbol => .documentSymbol
  | .codeAction => .codeAction
  | .codeLens => .codeLens
  | .resolveLens => .codeLensResolve
  | .documentLink => .documentLink
  | .resolveLink => .documentLinkResolve
  | .formatting => .formatting
  | .rangeFormatting => .rangeFormatting
  | .onTypeFormatting => .onTypeFormatting
  | .rename => .rename
  | .workspaceSymbol => .workspaceSymbol
  | .executeCommand => .executeCommand

/-- The method of a feature, as its handler names it. -/
def method (feature : Feature) : String := feature.request.method

/-- The shape of the parameters of a feature. -/
def params (feature : Feature) : Json.Shape := feature.request.params

/-- The shape of the result of a feature. -/
def result (feature : Feature) : Json.Shape := feature.request.result

end Feature

namespace Notice

/-- The notification that an engine is told of. -/
def notification : Notice → Protocol.Notification
  | .didOpen => .didOpenTextDocument
  | .didChange => .didChangeTextDocument
  | .willSave => .willSaveTextDocument
  | .didSave => .didSaveTextDocument
  | .didClose => .didCloseTextDocument
  | .didChangeConfiguration => .didChangeConfiguration
  | .didChangeWatchedFiles => .didChangeWatchedFiles

/-- The method of a notification, as its handler names it. -/
def method (notice : Notice) : String := notice.notification.method

/-- The shape of the parameters of a notification. -/
def params (notice : Notice) : Json.Shape := notice.notification.params

end Notice

/-- An operation of the engine, apart from its disposal. -/
inductive Operation where
  /-- The handshake is opened. -/
  | opening
  /-- The handshake is confirmed. -/
  | confirmation
  /-- The shutdown is asked for. -/
  | shutdown
  /-- The client leaves. -/
  | exit
  /-- A notification. -/
  | notice (notice : Notice)
  /-- A request. -/
  | feature (feature : Feature)
  deriving DecidableEq, Repr

namespace Operation

/-- The method of an operation. -/
def method : Operation → String
  | .opening => "initialize"
  | .confirmation => "initialized"
  | .shutdown => "shutdown"
  | .exit => "exit"
  | .notice n => n.method
  | .feature f => f.method

/-- The shape of the parameters of an operation. -/
def params : Operation → Json.Shape
  | .opening => Protocol.openingParams
  | .confirmation => Protocol.confirmationParams
  | .shutdown | .exit => .any
  | .notice n => n.params
  | .feature f => f.params

/-- The shape of the result of an operation. -/
def result : Operation → Json.Shape
  | .opening => Protocol.openingResult
  | .confirmation | .shutdown | .exit | .notice _ => .any
  | .feature f => f.result

end Operation

/-- An operation with its parameters in canonical form. -/
structure Call where
  /-- The operation. -/
  operation : Operation
  /-- The parameters. -/
  params : Json

end LspGateway.Engine
