import LspGateway.Proofs.Session.Coherent

/-!
# What handling comes to

The functions that handle messages and tasks have many ways out. Here each way
out is put into one of a few classes, up to reports and forwarded events: a
message is ignored, cancels a request, is answered at once, becomes a task, or
has the engine asked; a duty of the engine's is answered, seen through, or ends
the session; a task is refused, waits, or is answered. Everything that is said
of acts and runs is derived from these classes, and no function is opened again.
-/

namespace LspGateway.Session

variable {state pending : Type}

/-! ## Messages -/

/-- Whether a method is that of a feature, and requests for features are taken in. -/
def admits (session : Session state pending) (method : String) : Bool :=
  match MethodTable.standard.route? method with
  | some (.feature _) => session.lifecycle.phase == .initialized
  | _ => false

/-- Whether a request for a feature would be taken in, had not another one its
identifier that has no answer yet. -/
def duplicates (session : Session state pending) (id : RequestId) (method : String) : Bool :=
  session.admits method && session.tasks.any fun task => task.id == id

/-- The identifier under which a message has to be answered, if it has to. -/
def due (session : Session state pending) (payload : Bytes) : Option (Option RequestId) :=
  match Incoming.decode payload with
  | .ok (.request id method _) => if session.duplicates id method then none else some (some id)
  | .ok (.notification _ _) | .ok (.response _ _ _) => none
  | .error rejection => some rejection.id?

/-- The session with a further request registered. -/
def enlist (session : Session state pending) (id : RequestId) (feature : Engine.Feature)
    (params : Json) : Session state pending :=
  { session with
    registry := session.registry.registered id
    tasks := session.tasks ++
      [⟨session.nextTicket, id, feature, session.registry.handles.length, .spawned params⟩]
    nextTicket := session.nextTicket + 1 }

/-- What handling a message comes to. -/
inductive Upshot (m : Engine state pending) (session : Session state pending) (payload : Bytes) :
    Session state pending → Prop where
  /-- The message is of no consequence. -/
  | ignored {told : Session state pending} (due : session.due payload = none)
      (alike : session.Alike told) : Upshot m session payload told
  /-- A request is cancelled, if it is outstanding. -/
  | cancelled {told : Session state pending} (id : RequestId) (due : session.due payload = none)
      (alike : { session with registry := (session.registry.cancel id).2 }.Alike told) :
      Upshot m session payload told
  /-- The message is answered at once. -/
  | answered {told : Session state pending} (id : Option RequestId) (answer : Answer)
      (due : session.due payload = some id) (alike : session.Alike told) :
      Upshot m session payload (told.send (.response id answer))
  /-- The message becomes a task. -/
  | enlisted {told : Session state pending} (id : RequestId) (feature : Engine.Feature)
      (params : Json) (decoded : Incoming.decode payload = .ok (.request id feature.method params))
      (phase : session.lifecycle.phase = .initialized) (free : session.registry.live? id = none)
      (due : session.due payload = some (some id))
      (alike : (session.enlist id feature params).Alike told) : Upshot m session payload told
  /-- The engine is asked. -/
  | asked {told : Session state pending} (duty : Duty) (next : Lifecycle) (call : Engine.Call)
      (due : session.due payload = duty.asker?.map some)
      (starts : duty.Starts session.lifecycle next) (operation : call.operation = duty.operation)
      (alike : { session with lifecycle := next }.Alike told) :
      Upshot m session payload (told.ask m duty call).2

/-- A method leads to the operation of that method and to no other. -/
theorem method_of_operation? {method : String} {operation : Engine.Operation}
    (h : (MethodTable.standard.route? method).bind Route.operation? = some operation) :
    operation.method = method := by
  obtain ⟨route, hroute, hoperation⟩ := Option.bind_eq_some_iff.mp h
  obtain ⟨before, after, hroutes, -⟩ := List.lookup_eq_some_iff.mp hroute
  have hmem : (method, route) ∈ MethodTable.standard.routes := by
    rw [hroutes]
    exact List.mem_append_right before List.mem_cons_self
  cases route with
  | control => cases hoperation
  | feature feature | notice notice =>
    cases hoperation
    simp only [MethodTable.standard, MethodTable.controls, List.mem_append, List.mem_map,
      List.mem_cons, List.not_mem_nil, Prod.mk.injEq, reduceCtorEq, and_false, or_false,
      exists_false, false_or, Route.feature.injEq, Route.notice.injEq, Prod.exists,
      MethodTable.mem_features, MethodTable.mem_notices] at hmem
    obtain ⟨_, _, rfl, rfl, rfl⟩ := hmem
    rfl

/-- A method leads to the feature of that method and to no other. -/
theorem method_of_route {method : String} {feature : Engine.Feature}
    (h : MethodTable.standard.route? method = some (.feature feature)) :
    method = feature.method := by
  have hoperation : (MethodTable.standard.route? method).bind Route.operation? =
      some (.feature feature) := by
    rw [h]
    rfl
  exact (method_of_operation? hoperation).symm

/-- A decoded call is one of its operation. -/
theorem operation_of_decode {operation : Engine.Operation} {params : Json} {call : Engine.Call}
    (h : Dispatch.decode operation params = .ok call) : call.operation = operation := by
  unfold Dispatch.decode at h
  split at h
  · rw [← Except.ok.inj h]
  · exact absurd h (by simp)

/-- The engine is there as long as the session has not ended. -/
theorem Coherent.held {session : Session state pending} (h : session.Coherent)
    (hs : session.hasEnded = false) : session.bridge.released = false :=
  h.released.trans hs

section Messages

variable {m : Engine state pending} {session : Session state pending} {payload : Bytes}

/-- An answer without further consequences. -/
theorem upshot_reply {told : Session state pending} {id : RequestId}
    (due : session.due payload = some (some id)) (alike : session.Alike told) (method : String)
    (result : Except Dispatch.Error Json) :
    Upshot m session payload (told.reply id method result) := by
  obtain ⟨reported, answer, ha, heq⟩ := reply_eq told id method result
  rw [heq]
  exact .answered (some id) answer due (alike.trans ha)

/-- The opening of the handshake. -/
theorem openHandshake_upshot (h : session.Coherent) (hs : session.hasEnded = false)
    {id : RequestId} (due : session.due payload = some (some id)) (world : World) (params : Json) :
    Upshot m session payload (session.openHandshake m world id params).2 := by
  unfold openHandshake
  split
  · exact upshot_reply due (.refl session) _ (.error _)
  · next next hnext =>
    have starts : (Duty.opening id).Starts session.lifecycle next := hnext
    dsimp only
    split
    · -- The handshake is taken back at once, so the lifecycle is as it was.
      refine upshot_reply due (.trans ?_ (.pass _ _)) _ (.error _)
      have hback : (session.pass next).lifecycle.abortHandshake = session.lifecycle :=
        starts.abortHandshake
      rw [hback]
      exact (Alike.pass session next).withLifecycle session.lifecycle
    · next call hcall =>
      have supervised {told : Session state pending}
          (halike : { session with lifecycle := next }.Alike told) :
          Upshot m session payload
            (if told.bridge.released then
              (Flow.on, told.reply id "initialize" (.error .engineReleased))
            else told.ask m (.opening id) call).2 := by
        rw [if_neg (by rw [halike.released, h.held hs]; decide)]
        exact .asked (.opening id) next call due starts (operation_of_decode hcall) halike
      split
      · exact supervised ((Alike.pass session next).trans (.supervise _ world _))
      · exact supervised (.pass session next)

/-- The confirmation of the handshake. -/
theorem confirmHandshake_upshot (h : session.Coherent) (hs : session.hasEnded = false)
    (due : session.due payload = none) :
    Upshot m session payload (session.confirmHandshake m).2 := by
  unfold confirmHandshake
  split
  · exact .ignored due (.report session _)
  · next next hnext =>
    dsimp only
    split
    · next hr => exact absurd (hr.symm.trans (h.held hs)) (by simp)
    · exact .asked .confirmation next _ due hnext rfl (.pass session next)

/-- The request for the shutdown. -/
theorem shutDown_upshot (h : session.Coherent) (hs : session.hasEnded = false) {id : RequestId}
    (due : session.due payload = some (some id)) :
    Upshot m session payload (session.shutDown m id).2 := by
  unfold shutDown
  split
  · exact upshot_reply due (.refl session) _ (.error _)
  · next next hnext =>
    dsimp only
    split
    · next hr => exact absurd (hr.symm.trans (h.held hs)) (by simp)
    · exact .asked (.shutdown id) next _ due hnext rfl (.pass session next)

/-- The exit. -/
theorem leave_upshot (h : session.Coherent) (hs : session.hasEnded = false)
    (due : session.due payload = none) : Upshot m session payload (session.leave m).2 := by
  unfold leave
  dsimp only
  split
  · next hr => exact absurd (hr.symm.trans (h.held hs)) (by simp)
  · exact .asked .exit session.lifecycle _ due rfl rfl (.report session _)

/-- A request to cancel another one. -/
theorem cancel_upshot (due : session.due payload = none) (params : Json) :
    Upshot m session payload (session.cancel params) := by
  unfold Session.cancel
  dsimp only
  split
  · exact .ignored due (.report session _)
  · split
    · exact .ignored due (.report session _)
    · next id _ => exact .cancelled id due (.report _ _)

/-- A notification for the engine. -/
theorem forward_upshot (h : session.Coherent) (hs : session.hasEnded = false)
    (due : session.due payload = none) (notice : Engine.Notice) (params : Json) :
    Upshot m session payload (session.forward m notice params).2 := by
  unfold forward
  split
  · exact .ignored due (.report session _)
  · next hadmits =>
    have hphase : session.lifecycle.phase = .initialized := by
      simpa [Lifecycle.admitsNotifications] using hadmits
    split
    · next hr => exact absurd (hr.symm.trans (h.held hs)) (by simp)
    · split
      · next call hcall =>
        exact .asked (.notice notice) session.lifecycle call due ⟨hphase, rfl⟩
          (operation_of_decode hcall) (.refl session)
      · exact .ignored due (.report session _)

/-- A request for a feature. -/
theorem spawn_upshot (h : session.Coherent) (hs : session.hasEnded = false) {id : RequestId}
    {feature : Engine.Feature} {params : Json}
    (decoded : Incoming.decode payload = .ok (.request id feature.method params)) :
    Upshot m session payload (session.spawn id feature params) := by
  have hroute := MethodTable.route?_standard_feature feature
  unfold spawn
  split
  · next error herror =>
    have hphase : (session.lifecycle.phase == .initialized) = false := by
      cases hp : session.lifecycle.phase <;>
        simp_all [Lifecycle.admitRequest]
    have due : session.due payload = some (some id) := by
      simp [Session.due, decoded, duplicates, admits, hroute, hphase]
    exact upshot_reply due (.refl session) _ _
  · next hadmits =>
    have hphase : session.lifecycle.phase = .initialized := by
      unfold Lifecycle.admitRequest at hadmits
      split at hadmits <;> first | assumption | exact absurd hadmits (by simp)
    split
    · next hr => exact absurd (hr.symm.trans (h.held hs)) (by simp)
    · cases hl : session.registry.live? id with
      | some number =>
        obtain ⟨task, ht, hid, -⟩ := (h.agreement.live id number).mp hl
        have hany : (session.tasks.any fun task => task.id == id) = true :=
          List.any_eq_true.mpr ⟨task, ht, by simpa using hid⟩
        have due : session.due payload = none := by
          simp only [Session.due, decoded, duplicates, admits, hroute, hphase, hany]
          rfl
        rw [Registry.register_of_live hl]
        exact .ignored due (.report session _)
      | none =>
        have hany : (session.tasks.any fun task => task.id == id) = false := by
          simpa using h.agreement.live_eq_none_iff.mp hl
        have due : session.due payload = some (some id) := by
          simp only [Session.due, decoded, duplicates, hany, Bool.and_false]
          rfl
        rw [Registry.register_of_free hl]
        exact .enlisted id feature params decoded hphase hl due (.report _ _)

/-- Every message comes to one of these. -/
theorem handleFrame_upshot (h : session.Coherent) (hs : session.hasEnded = false) (world : World) :
    Upshot m session payload (session.handleFrame m world payload).2 := by
  unfold handleFrame
  split
  · next id method params decoded =>
    unfold handleRequest
    have due (hroute : ∀ feature, MethodTable.standard.route? method ≠ some (.feature feature)) :
        session.due payload = some (some id) := by
      have hdup : session.duplicates id method = false := by
        unfold duplicates admits
        split
        · next feature hf => exact absurd hf (hroute feature)
        · rfl
      simp [Session.due, decoded, hdup]
    split
    · next hroute => exact upshot_reply (due (by simp [hroute])) (.refl session) method (.error _)
    · next hroute => exact openHandshake_upshot h hs (due (by simp [hroute])) world params
    · next hroute => exact shutDown_upshot h hs (due (by simp [hroute]))
    · next hroute => exact upshot_reply (due (by simp [hroute])) (.refl session) method (.error _)
    · next hroute => exact upshot_reply (due (by simp [hroute])) (.refl session) method (.error _)
    · next feature hroute =>
      exact spawn_upshot h hs (decoded.trans (by rw [method_of_route hroute]))
  · next method params decoded =>
    have due : session.due payload = none := by simp [Session.due, decoded]
    unfold handleNotification
    split
    · exact .ignored due (.report session _)
    · exact confirmHandshake_upshot h hs due
    · exact leave_upshot h hs due
    · exact cancel_upshot due params
    · exact .ignored due (.report session _)
    · exact .ignored due (.report session _)
    · next notice _ => exact forward_upshot h hs due notice params
  · next decoded => exact .ignored (by simp [Session.due, decoded]) (.report session _)
  · next rejection decoded =>
    exact .answered rejection.id? _ (by simp [Session.due, decoded]) (.report session _)

end Messages

end LspGateway.Session
