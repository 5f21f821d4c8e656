import LspGateway.Engine.Error
import LspGateway.Registry.Holders

/-!
# Tokens

By a token whoever works on a request sees whether it was cancelled. A token shows the
state of the handle that it was taken from without holding the handle, so that it goes on
showing it once nobody holds the handle any more. Cancellation is advice: whoever never
looks at the token finishes as usual.
-/

namespace LspGateway.Registry

/-- A view of the cancellation of one request. -/
structure Token where
  /-- The handle that it was taken from. -/
  handle : Nat
  deriving DecidableEq, Repr

namespace Token

/-- Whether the request was cancelled. -/
def isCancelled (token : Token) (registry : Registry) : Bool :=
  registry.isCancelled token.handle

/-- Fails once the request was cancelled. -/
def check (token : Token) (registry : Registry) : Except Engine.Error Unit :=
  if token.isCancelled registry then .error .cancelled else .ok ()

/-- Whether those who wait for the cancellation have to wait on. -/
def isPending (token : Token) (registry : Registry) : Bool :=
  !token.isCancelled registry

end Token

/-- The token that is kept under a name. -/
def Holders.token? (holders : Holders) (name : String) : Option Token :=
  (holders.watched.lookup name).map Token.mk

end LspGateway.Registry
