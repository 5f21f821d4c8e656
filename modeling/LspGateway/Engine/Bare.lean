import LspGateway.Engine.Interface

/-!
# The bare engine

It accepts everything that it must and serves no feature.
-/

namespace LspGateway.Engine

/-- The answer of an engine that says nothing of itself. -/
def plainOpeningAnswer : Json :=
  .ofPairs [("capabilities", .ofPairs [])]

/-- The request that an engine which does not serve a feature names as unsupported. -/
def Feature.fallback : Feature → Protocol.Request
  | .completion => .completion
  | .resolveCompletion => .resolveCompletionItem
  | .hover => .hover
  | .signatureHelp => .signatureHelp
  | .definition => .gotoDefinition
  | .references => .references
  | .documentHighlight => .documentHighlight
  | .documentSymbol => .documentSymbol
  | .codeAction => .codeAction
  | .codeLens => .codeLens
  | .resolveLens => .codeLensResolve
  | .documentLink => .documentLink
  | .resolveLink => .documentLinkResolve
  | .formatting => .formatting
  | .rangeFormatting => .rangeFormatting
  | .onTypeFormatting => .onTypeFormatting
  | .rename => .rename
  | .workspaceSymbol => .workspaceSymbol
  | .executeCommand => .executeCommand
  | .willSaveWaitUntil => .willSaveWaitUntil

/-- An engine that does not serve a feature names the request that it was called for. -/
theorem Feature.fallback_eq_request (feature : Feature) : feature.fallback = feature.request := by
  cases feature <;> rfl

/-- How an operation ends that an engine does not care about. -/
def defaultOutcome : Operation → Outcome
  | .opening => .result plainOpeningAnswer
  | .confirmation | .shutdown | .exit | .notice _ => .result .null
  | .feature f => .failed (.unsupported f.fallback.method)

/-- The engine without features. -/
def bare : Engine Unit Empty where
  begin := fun call _ _ => ((), .ended (defaultOutcome call.operation))
  resume := fun pending => pending.elim
  dispose := fun _ => ((), [])

end LspGateway.Engine
