import LspGateway.Engine.Event

/-!
# The event hub

Handlers subscribe to a kind of event and are told of every event of that kind.
Subscriptions are numbered in the order in which they are made, and a number is
never given out twice. The hub itself is a table; what handlers do is up to
whoever uses it.
-/

namespace LspGateway

/-- One subscription. -/
structure Hub.Subscription (handler : Type) where
  /-- Its number. -/
  id : Nat
  /-- The kind that it is for. -/
  kind : EventKind
  /-- Who is told. -/
  handler : handler

/-- The subscriptions to the events of an engine, in the order of their
numbers. -/
structure Hub (handler : Type) where
  /-- The number of the next subscription. -/
  next : Nat
  /-- The subscriptions. -/
  subscriptions : List (Hub.Subscription handler)

namespace Hub

variable {handler : Type}

/-- A hub without subscriptions. -/
def empty : Hub handler := ⟨0, []⟩

/-- Subscribes a handler; yields the number of the subscription. -/
def subscribe (hub : Hub handler) (kind : EventKind) (who : handler) : Nat × Hub handler :=
  (hub.next, ⟨hub.next + 1, hub.subscriptions ++ [⟨hub.next, kind, who⟩]⟩)

/-- Whether there is a subscription of that number. -/
def holds (hub : Hub handler) (id : Nat) : Bool :=
  hub.subscriptions.any fun subscription => subscription.id == id

/-- Removes a subscription; tells whether it was there. -/
def unsubscribe (hub : Hub handler) (id : Nat) : Bool × Hub handler :=
  (hub.holds id,
    { hub with subscriptions := hub.subscriptions.filter fun subscription =>
        subscription.id != id })

/-- The handlers of a kind, in the order of their subscriptions. -/
def listeners (hub : Hub handler) (kind : EventKind) : List handler :=
  (hub.subscriptions.filter fun subscription => subscription.kind == kind).map
    Subscription.handler

/-- How many handlers a kind has. -/
def count (hub : Hub handler) (kind : EventKind) : Nat :=
  (hub.listeners kind).length

/-- The hub as it is shown to people. -/
def display (hub : Hub handler) : String :=
  s!"EventHub \x7b subscriptions: {hub.subscriptions.length}, .. \x7d"

/-- A removed subscription is gone. -/
theorem holds_unsubscribe (hub : Hub handler) (id : Nat) :
    (hub.unsubscribe id).2.holds id = false := by
  simp [unsubscribe, holds]

end Hub

end LspGateway
