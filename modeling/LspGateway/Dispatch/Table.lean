import LspGateway.Engine.Operation

/-!
# The method table

Which part of the gateway a method leads to. The table is fixed for a session.
-/

namespace LspGateway

/-- The methods that the session handles by itself. -/
inductive Control where
  /-- The client opens the handshake. -/
  | opening
  /-- The client confirms the handshake. -/
  | confirmation
  /-- The client asks for the shutdown. -/
  | shutdown
  /-- The client leaves. -/
  | exit
  /-- The client cancels a request. -/
  | cancel
  deriving DecidableEq, Repr

/-- The name of a control. -/
def Control.name : Control → String
  | .opening => "Initialize"
  | .confirmation => "Initialized"
  | .shutdown => "Shutdown"
  | .exit => "Exit"
  | .cancel => "Cancel"

/-- Where a method leads. -/
inductive Route where
  /-- To the session itself. -/
  | control (control : Control)
  /-- To the engine, to be answered once. -/
  | feature (feature : Engine.Feature)
  /-- To the engine, without an answer. -/
  | notice (notice : Engine.Notice)
  deriving DecidableEq, Repr

/-- A route as it is shown to people. -/
def Route.display : Route → String
  | .control c => "Lifecycle(" ++ c.name ++ ")"
  | .feature _ => "Request(..)"
  | .notice _ => "Notification(..)"

/-- The operation behind a route, where it leads to the engine at once. -/
def Route.operation? : Route → Option Engine.Operation
  | .feature f => some (.feature f)
  | .notice n => some (.notice n)
  | .control _ => none

/-- Routes by method, one for each method. -/
structure MethodTable where
  /-- The routes. -/
  routes : List (String × Route)

namespace MethodTable

/-- A table without routes. -/
def empty : MethodTable := ⟨[]⟩

/-- Adds a route, in place of an earlier one for the method. -/
def insert (table : MethodTable) (method : String) (route : Route) : MethodTable :=
  ⟨(method, route) :: table.routes.filter fun entry => entry.1 != method⟩

/-- The route of a method. -/
def route? (table : MethodTable) (method : String) : Option Route :=
  table.routes.lookup method

/-- How many methods have a route. -/
def size (table : MethodTable) : Nat :=
  table.routes.length

/-- The methods of the session's own. -/
def controls : List (String × Route) :=
  [("initialize", .control .opening), ("initialized", .control .confirmation),
    ("shutdown", .control .shutdown), ("exit", .control .exit),
    ("$/cancelRequest", .control .cancel), ("cancelRequest", .control .cancel)]

/-- The notifications that lead to the engine, and what it is told by each. -/
def notices : List (Protocol.Notification × Engine.Notice) :=
  [(.didOpenTextDocument, .didOpen), (.didChangeTextDocument, .didChange),
    (.willSaveTextDocument, .willSave), (.didSaveTextDocument, .didSave),
    (.didCloseTextDocument, .didClose), (.didChangeConfiguration, .didChangeConfiguration),
    (.didChangeWatchedFiles, .didChangeWatchedFiles)]

/-- The requests that lead to the engine, and what it is asked for by each. -/
def features : List (Protocol.Request × Engine.Feature) :=
  [(.willSaveWaitUntil, .willSaveWaitUntil), (.completion, .completion),
    (.resolveCompletionItem, .resolveCompletion), (.hover, .hover),
    (.signatureHelp, .signatureHelp), (.gotoDefinition, .definition), (.references, .references),
    (.documentHighlight, .documentHighlight), (.documentSymbol, .documentSymbol),
    (.codeAction, .codeAction), (.codeLens, .codeLens), (.codeLensResolve, .resolveLens),
    (.documentLink, .documentLink), (.documentLinkResolve, .resolveLink),
    (.formatting, .formatting), (.rangeFormatting, .rangeFormatting),
    (.onTypeFormatting, .onTypeFormatting), (.rename, .rename),
    (.workspaceSymbol, .workspaceSymbol), (.executeCommand, .executeCommand)]

/-- The table of all methods that the gateway knows. -/
def standard : MethodTable :=
  ⟨controls ++ notices.map (fun entry => (entry.1.method, .notice entry.2)) ++
    features.map fun entry => (entry.1.method, .feature entry.2)⟩

/-- A notification leads to what the engine is told by it, and nothing is left out. -/
theorem mem_notices {notification : Protocol.Notification} {notice : Engine.Notice} :
    (notification, notice) ∈ notices ↔ notification = notice.notification := by
  cases notice <;> cases notification <;> decide

/-- A request leads to the feature that the engine is called with for it, and nothing is left
out. -/
theorem mem_features {request : Protocol.Request} {feature : Engine.Feature} :
    (request, feature) ∈ features ↔ request = feature.request := by
  cases feature <;> simp [features, Engine.Feature.request]

/-- A route that was added is found. -/
theorem route?_insert (table : MethodTable) (method : String) (route : Route) :
    (table.insert method route).route? method = some route := by
  simp [insert, route?]

/-- The standard table has a route for every feature. -/
theorem route?_standard_feature (feature : Engine.Feature) :
    standard.route? feature.method = some (.feature feature) := by
  cases feature <;> decide +kernel

/-- The standard table has a route for every notification. -/
theorem route?_standard_notice (notice : Engine.Notice) :
    standard.route? notice.method = some (.notice notice) := by
  cases notice <;> decide +kernel

end MethodTable

end LspGateway
