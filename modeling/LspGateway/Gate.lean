/-!
# Gates

A gate stands before a handler. While it is open the handler runs; once closed
it never opens again.
-/

namespace LspGateway

/-- A gate before a handler. -/
structure Gate where
  /-- Whether handlers are admitted. -/
  isOpen : Bool
  deriving DecidableEq, Repr

namespace Gate

/-- A new gate. -/
def fresh : Gate := ⟨true⟩

/-- Does something if the gate is open. -/
def pass {α : Type} (gate : Gate) (action : Unit → α) : Option α :=
  if gate.isOpen then some (action ()) else none

/-- Closes the gate. -/
def close (_ : Gate) : Gate := ⟨false⟩

/-- Nothing passes a closed gate. -/
theorem pass_close {α : Type} (gate : Gate) (action : Unit → α) :
    gate.close.pass action = none := rfl

end Gate

end LspGateway
