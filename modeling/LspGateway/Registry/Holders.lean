import LspGateway.Registry.Basic

/-!
# Holders of handles

Handles are held under names, one handle under each name. Giving a name to
another handle lets go of the one it had. Beside that, the cancellation state of
a handle can be watched under a name without holding the handle.
-/

namespace LspGateway.Registry

/-- A registry together with those who hold and watch its handles. -/
structure Holders where
  /-- The registry. -/
  registry : Registry
  /-- The handle held under each name. -/
  held : List (String × Nat)
  /-- The handle watched under each name. -/
  watched : List (String × Nat)
  deriving Repr

namespace Holders

/-- An empty registry that nobody holds anything of. -/
def none : Holders := ⟨.empty, [], []⟩

/-- The pairs with another value under a name. -/
def put (name : String) (handle : Nat) (pairs : List (String × Nat)) : List (String × Nat) :=
  (name, handle) :: pairs.filter fun pair => pair.1 != name

/-- Holds a handle under a name; its holder has been counted already. Tells
whether the name was taken. -/
def keep (holders : Holders) (name : String) (handle : Nat) : Bool × Holders :=
  let registry := match holders.held.lookup name with
    | some old => holders.registry.letGo old
    | .none => holders.registry
  ((holders.held.lookup name).isSome,
    { holders with registry := registry, held := put name handle holders.held })

/-- What can be asked of holders and registry. -/
inductive Command where
  /-- To register a request and hold its handle. -/
  | register (id : RequestId) (name : String)
  /-- To hold what another name holds. -/
  | share (other name : String)
  /-- To watch what another name holds. -/
  | watch (other name : String)
  /-- To let go. -/
  | drop (name : String)
  /-- To tell the registry that a request has its answer. -/
  | complete (id : RequestId)
  /-- To cancel a request. -/
  | cancel (id : RequestId)
  /-- To cancel everything. -/
  | cancelSession
  /-- To count the outstanding requests. -/
  | count
  deriving DecidableEq, Repr

/-- What a command is answered. -/
inductive Answer where
  /-- The registered identifier. -/
  | registered (id : RequestId)
  /-- The registration was refused. -/
  | refused (error : Dispatch.Error)
  /-- Whether the name was taken, something was held or a request was found. -/
  | effect (took : Bool)
  /-- How many requests are outstanding. -/
  | count (requests : Nat)
  /-- Nothing. -/
  | silence
  deriving DecidableEq, Repr

/-- Carries out a command; also yields what is reported. -/
def run (holders : Holders) : Command → Answer × Holders × List Log.Entry
  | .register id name =>
    match holders.registry.register id with
    | .error error => (.refused error, holders, [])
    | .ok (handle, registry) =>
      (.registered id, ({ holders with registry := registry }.keep name handle).2, [])
  | .share other name =>
    match holders.held.lookup other with
    | .none => (.effect false, holders, [])
    | some handle =>
      let (taken, holders) :=
        { holders with registry := holders.registry.hold handle }.keep name handle
      (.effect taken, holders, [])
  | .watch other name =>
    match holders.held.lookup other with
    | .none => (.effect false, holders, [])
    | some handle =>
      (.effect (holders.watched.lookup name).isSome,
        { holders with watched := put name handle holders.watched }, [])
  | .drop name =>
    match holders.held.lookup name with
    | .none => (.effect false, holders, [])
    | some handle =>
      (.effect true,
        { holders with
          registry := holders.registry.letGo handle
          held := holders.held.filter fun pair => pair.1 != name }, [])
  | .complete id => (.silence, { holders with registry := holders.registry.complete id }, [])
  | .cancel id =>
    let (found, registry) := holders.registry.cancel id
    (.effect found, { holders with registry := registry }, [cancelEntry id found])
  | .cancelSession =>
    (.silence, { holders with registry := holders.registry.cancelSession }, [])
  | .count =>
    let (requests, registry) := holders.registry.outstanding
    (.count requests, { holders with registry := registry }, [])

end Holders

end LspGateway.Registry
