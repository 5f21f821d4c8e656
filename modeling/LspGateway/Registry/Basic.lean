import LspGateway.Dispatch.Error
import LspGateway.Log.Entry

/-!
# Outstanding requests

Every admitted request has a handle, held by whoever works on the request. The
registry only refers to handles: a handle that nobody holds any more counts as
finished even if the registry was never told. Handles are numbered in the order
in which they were made and are never forgotten, so that what is told of a
handle stays true for good.
-/

namespace LspGateway

/-- A cancellation handle. -/
structure Handle where
  /-- The request that it was made for. -/
  id : RequestId
  /-- How many holders it has. -/
  holders : Nat
  /-- Whether the request was cancelled. -/
  cancelled : Bool
  deriving DecidableEq, Repr

/-- The registry of outstanding requests. -/
structure Registry where
  /-- Whether the whole session was cancelled. -/
  sessionCancelled : Bool
  /-- All handles ever made, by number. -/
  handles : List Handle
  /-- The handle referred to under each identifier. -/
  entries : List (RequestId × Nat)
  deriving DecidableEq, Repr

namespace Registry

/-- A registry without requests. -/
def empty : Registry := ⟨false, [], []⟩

/-- How many holders a handle has; none for a number never given out. -/
def holders (registry : Registry) (handle : Nat) : Nat :=
  (registry.handles[handle]?.map Handle.holders).getD 0

/-- Whether the request of a handle was cancelled. -/
def isCancelled (registry : Registry) (handle : Nat) : Bool :=
  (registry.handles[handle]?.map Handle.cancelled).getD false

/-- Whether somebody holds a handle. -/
def isLive (registry : Registry) (handle : Nat) : Bool :=
  0 < registry.holders handle

/-- The live handle under an identifier. -/
def live? (registry : Registry) (id : RequestId) : Option Nat :=
  (registry.entries.lookup id).filter registry.isLive

/-- The entries without those of an identifier. -/
def without (entries : List (RequestId × Nat)) (id : RequestId) : List (RequestId × Nat) :=
  entries.filter fun entry => entry.1 != id

/-- Makes a handle for a new request, held once. An identifier that is still
outstanding is refused. -/
def register (registry : Registry) (id : RequestId) : Except Dispatch.Error (Nat × Registry) :=
  match registry.live? id with
  | some _ => .error (.duplicateId id)
  | none =>
    let number := registry.handles.length
    .ok (number,
      { registry with
        handles := registry.handles ++ [⟨id, 1, registry.sessionCancelled⟩]
        entries := (id, number) :: without registry.entries id })

/-- Changes one handle. -/
def modify (registry : Registry) (handle : Nat) (change : Handle → Handle) : Registry :=
  { registry with handles := registry.handles.modify handle change }

/-- Adds a holder. -/
def hold (registry : Registry) (handle : Nat) : Registry :=
  registry.modify handle fun h => { h with holders := h.holders + 1 }

/-- Takes a holder away. -/
def letGo (registry : Registry) (handle : Nat) : Registry :=
  registry.modify handle fun h => { h with holders := h.holders - 1 }

/-- Cancels the outstanding request of an identifier; tells whether there was
one. -/
def cancel (registry : Registry) (id : RequestId) : Bool × Registry :=
  match registry.live? id with
  | some handle => (true, registry.modify handle fun h => { h with cancelled := true })
  | none => (false, registry)

/-- Cancels everything, now and in future. -/
def cancelSession (registry : Registry) : Registry :=
  { registry with
    sessionCancelled := true
    handles := registry.handles.map fun h => { h with cancelled := true } }

/-- Forgets the identifier of a request that has its answer, unless its handle
has further holders. -/
def complete (registry : Registry) (id : RequestId) : Registry :=
  match registry.entries.lookup id with
  | some handle =>
    if registry.holders handle ≤ 1 then
      { registry with entries := without registry.entries id }
    else registry
  | none => registry

/-- Forgets the identifiers whose handles nobody holds. -/
def prune (registry : Registry) : Registry :=
  { registry with entries := registry.entries.filter fun entry => registry.isLive entry.2 }

/-- How many requests are outstanding, together with the pruned registry. -/
def outstanding (registry : Registry) : Nat × Registry :=
  let pruned := registry.prune
  (pruned.entries.length, pruned)

/-- The entry for an attempt to cancel a request. -/
def cancelEntry (id : RequestId) (found : Bool) : Log.Entry :=
  ⟨.debug, .cancellation,
    if found then "cancellation requested" else "ignoring cancellation for unknown request",
    [("id", .shown id.display)]⟩

/-- A session that is cancelled stays cancelled. -/
theorem isCancelled_cancelSession (registry : Registry) {handle : Nat}
    (h : handle < registry.handles.length) :
    registry.cancelSession.isCancelled handle = true := by
  simp [isCancelled, cancelSession, h]

end Registry

end LspGateway
