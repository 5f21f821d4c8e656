import LspGateway.Log.Entry
import LspGateway.Message.Display

/-!
# The queue of outgoing messages

Messages wait here until the writer takes them. Sending never fails for the
sender: once the queue is closed, or nobody takes messages any more, further
ones are dropped. What was queued before is still taken.
-/

namespace LspGateway

/-- The queue of outgoing messages. -/
structure Outbound where
  /-- The messages that wait, in order. -/
  queued : List Outgoing
  /-- Whether messages are accepted. -/
  isOpen : Bool
  /-- Whether somebody takes them. -/
  hasReceiver : Bool

namespace Outbound

/-- A new queue. -/
def fresh : Outbound := ⟨[], true, true⟩

/-- The entry for a message that comes too late. -/
def closedEntry (message : Outgoing) : Log.Entry :=
  ⟨.debug, .outbound, "outbound closed; dropping message",
    [("message", .shown message.display)]⟩

/-- The entry for a message that nobody would take. -/
def goneEntry : Log.Entry :=
  ⟨.debug, .outbound, "writer gone; dropping message", []⟩

/-- Queues a message, or drops it; tells whether it was accepted. -/
def send (outbound : Outbound) (message : Outgoing) : Bool × Outbound × List Log.Entry :=
  if !outbound.isOpen then (false, outbound, [closedEntry message])
  else if !outbound.hasReceiver then (false, outbound, [goneEntry])
  else (true, { outbound with queued := outbound.queued ++ [message] }, [])

/-- The entry for a notification whose parameters cannot be written. -/
def unwritableEntry (method reason : String) : Log.Entry :=
  ⟨.warn, .outbound, "dropping notification with unserialisable params",
    [("method", .text method), ("error", .shown reason)]⟩

/-- Closes the queue. -/
def close (outbound : Outbound) : Outbound × List Log.Entry :=
  ({ outbound with isOpen := false },
    if outbound.isOpen then [⟨.debug, .outbound, "outbound closed", []⟩] else [])

/-- Takes all messages that wait. -/
def take (outbound : Outbound) : List Outgoing × Outbound :=
  (outbound.queued, { outbound with queued := [] })

/-- Leaves the queue without anybody who takes messages; those that wait are
lost. -/
def dropReceiver (outbound : Outbound) : Outbound :=
  { outbound with hasReceiver := false, queued := [] }

/-- A closed queue accepts nothing. -/
theorem send_close (outbound : Outbound) (message : Outgoing) :
    (outbound.close.1.send message).1 = false ∧
      (outbound.close.1.send message).2.1.queued = outbound.queued := by
  simp [close, send]

end Outbound

end LspGateway
