import LspGateway.Json.Basic

/-!
# Overlays

Laying one value over another: objects are laid over each other member by member,
and anything else takes the place of what is below.
-/

namespace LspGateway.Json

mutual

/-- The second value laid over the first. -/
def overlay (below : Json) : Json → Json
  | .object above =>
    match below with
    | .object members => .object (overlayMembers members above)
    | _ => .object (overlayMembers [] above)
  | above => above

/-- Members laid over members. -/
def overlayMembers (below : Members) : Members → Members
  | [] => below
  | (key, value) :: rest =>
    overlayMembers (Members.insert key (((below.get? key).getD .null).overlay value) below) rest

end

/-- Layers laid over each other, the last one on top. -/
def overlayAll (layers : List Json) : Json :=
  layers.foldl overlay (.ofPairs [])

/-- Nothing laid over members leaves them as they are. -/
theorem overlay_empty (members : Members) :
    (Json.object members).overlay (.object []) = .object members := by
  simp [overlay, overlayMembers]

end LspGateway.Json
