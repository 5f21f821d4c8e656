import LspGateway.Proofs.Session.Handling

/-!
# What a frame asks of the engine

Most frames are dealt with without the engine: they are refused, put aside as tasks, or of
no consequence. The others ask the engine for one call, and which call that is can be read
off the frame and the phase. A frame that asks for nothing leaves the lifecycle, the engine,
the message that waits and the watch over processes alone; one that asks for a call begins
its duty, and nothing else happens before the call.
-/

namespace LspGateway.Session

variable {state pending : Type}

/-- The call that a frame asks the engine for while it is handled, and the duty behind it. -/
def summons? (session : Session state pending) (payload : Bytes) : Option (Duty × Engine.Call) :=
  match Incoming.decode payload with
  | .ok (.request id method params) =>
    match MethodTable.standard.route? method, session.lifecycle.phase with
    | some (.control .opening), .uninitialized =>
      (Dispatch.decode .opening params).toOption.map fun call => (.opening id, call)
    | some (.control .shutdown), .initialized => some (.shutdown id, ⟨.shutdown, .null⟩)
    | _, _ => none
  | .ok (.notification method params) =>
    match MethodTable.standard.route? method, session.lifecycle.phase with
    | some (.control .confirmation), .initializing =>
      some (.confirmation, ⟨.confirmation, .ofPairs []⟩)
    | some (.control .exit), _ => some (.exit, ⟨.exit, .null⟩)
    | some (.notice notice), .initialized =>
      (Dispatch.decode (.notice notice) params).toOption.map fun call => (.notice notice, call)
    | _, _ => none
  | _ => none

/-- The process that a frame names, if it opens the handshake. -/
def named? (session : Session state pending) (payload : Bytes) : Option Nat :=
  match session.summons? payload with
  | some (.opening _, call) => (call.params.get? "processId").bind Json.nat?
  | _ => none

/-- The session that begins to watch a process, if there is one to be watched. -/
def attend (session : Session state pending) (world : World) : Option Nat → Session state pending
  | some pid => session.supervise world pid
  | none => session

/-- Nothing has happened to the watch over processes. -/
structure Still (before after : Session state pending) : Prop where
  /-- The supervisor in charge is as before. -/
  attached : after.bridge.attached = before.bridge.attached
  /-- The supervisors are as before. -/
  supervisors : after.bridge.supervisors = before.bridge.supervisors

/-- Nothing has happened to what calls of the engine depend on, nor to the watch over
processes. -/
structure Unmoved (before after : Session state pending) : Prop extends before.Still after where
  /-- The lifecycle is as before. -/
  lifecycle : after.lifecycle = before.lifecycle
  /-- The engine is as before. -/
  engine : after.bridge.engine = before.bridge.engine
  /-- The message that waits is as before. -/
  turn : after.turn = before.turn

namespace Unmoved

/-- Nothing at all has happened. -/
theorem refl (session : Session state pending) : session.Unmoved session :=
  ⟨⟨rfl, rfl⟩, rfl, rfl, rfl⟩

/-- One thing happens after the other. -/
theorem trans {a b c : Session state pending} (hab : a.Unmoved b) (hbc : b.Unmoved c) :
    a.Unmoved c where
  attached := hbc.attached.trans hab.attached
  supervisors := hbc.supervisors.trans hab.supervisors
  lifecycle := hbc.lifecycle.trans hab.lifecycle
  engine := hbc.engine.trans hab.engine
  turn := hbc.turn.trans hab.turn

/-- A step of the lifecycle that is taken back. -/
theorem passed_back (session : Session state pending) (next : Lifecycle) :
    session.Unmoved ((session.pass next).pass session.lifecycle) :=
  ⟨⟨rfl, rfl⟩, rfl, rfl, rfl⟩

/-- Answering is no matter of the engine. -/
theorem reply (session : Session state pending) (id : RequestId) (method : String)
    (result : Except Dispatch.Error Json) : session.Unmoved (session.reply id method result) := by
  cases result <;> exact ⟨⟨rfl, rfl⟩, rfl, rfl, rfl⟩

/-- Reporting is none. -/
theorem report (session : Session state pending) (entries : List Log.Entry) :
    session.Unmoved (session.report entries) :=
  ⟨⟨rfl, rfl⟩, rfl, rfl, rfl⟩

/-- Nor is cancelling a request. -/
theorem cancel (session : Session state pending) (params : Json) :
    session.Unmoved (session.cancel params) := by
  unfold Session.cancel
  dsimp only
  split
  · exact report session _
  · split
    · exact report session _
    · exact ⟨⟨rfl, rfl⟩, rfl, rfl, rfl⟩

/-- A request for a feature is put aside. -/
theorem spawn (session : Session state pending) (id : RequestId) (feature : Engine.Feature)
    (params : Json) : session.Unmoved (session.spawn id feature params) := by
  unfold Session.spawn
  split
  · exact reply session id _ _
  · split
    · exact reply session id _ _
    · split
      · exact report session _
      · exact ⟨⟨rfl, rfl⟩, rfl, rfl, rfl⟩

end Unmoved

/-- What becomes of a frame, as far as the engine is concerned. -/
inductive Heard (m : Engine state pending) (world : World) (session : Session state pending)
    (payload : Bytes) : Session state pending → Prop where
  /-- The engine is not asked for anything. -/
  | unheard {after : Session state pending} (silent : session.summons? payload = none)
      (unmoved : session.Unmoved after) : Heard m world session payload after
  /-- The engine is asked, after the step of the lifecycle that belongs to the duty and
  after the process that the client names was looked at. -/
  | asked {told : Session state pending} (duty : Duty) (next : Lifecycle) (call : Engine.Call)
      (summons : session.summons? payload = some (duty, call))
      (starts : duty.Starts session.lifecycle next)
      (alike : { session with lifecycle := next }.Alike told) (still : session.Still told) :
      Heard m world session payload
        ((told.attend world (session.named? payload)).ask m duty call).2

/-- Beginning to watch a process is likeness. -/
theorem Alike.attend (session : Session state pending) (world : World) (pid : Option Nat) :
    session.Alike (session.attend world pid) := by
  cases pid with
  | none => exact .refl session
  | some pid => exact .supervise session world pid

section Frames

variable {m : Engine state pending} {session : Session state pending} {payload : Bytes}
  {world : World}

/-- An answer without the engine. -/
theorem heard_reply (silent : session.summons? payload = none) (id : RequestId) (method : String)
    (error : Dispatch.Error) :
    Heard m world session payload (session.reply id method (.error error)) :=
  .unheard silent (.reply session id method (.error error))

/-- A duty that names no process. -/
theorem heard_asked {told : Session state pending} {duty : Duty} {next : Lifecycle}
    {call : Engine.Call} (summons : session.summons? payload = some (duty, call))
    (other : ∀ id, duty ≠ .opening id) (starts : duty.Starts session.lifecycle next)
    (alike : { session with lifecycle := next }.Alike told) (still : session.Still told) :
    Heard m world session payload (told.ask m duty call).2 := by
  have unnamed : session.named? payload = none := by
    unfold named?
    rw [summons]
    cases duty with
    | opening id => exact absurd rfl (other id)
    | _ => rfl
  have heard : Heard m world session payload
      ((told.attend world (session.named? payload)).ask m duty call).2 :=
    .asked duty next call summons starts alike still
  rwa [unnamed] at heard

/-- The opening of the handshake. -/
theorem openHandshake_heard (held : session.bridge.released = false) {id : RequestId}
    {method : String} {params : Json}
    (decoded : Incoming.decode payload = .ok (.request id method params))
    (routed : MethodTable.standard.route? method = some (.control .opening)) :
    Heard m world session payload (session.openHandshake m world id params).2 := by
  unfold openHandshake
  split
  · next error refused =>
    refine heard_reply ?_ id _ error
    unfold Lifecycle.beginHandshake at refused
    unfold summons?
    simp only [decoded, routed]
    cases phase : session.lifecycle.phase with
    | uninitialized => exact absurd (phase ▸ refused) (by simp)
    | _ => rfl
  · next next hnext =>
    have starts : (Duty.opening id).Starts session.lifecycle next := hnext
    have phase := starts.inv.1
    have summons : session.summons? payload =
        (Dispatch.decode .opening params).toOption.map fun call => (.opening id, call) := by
      unfold summons?
      simp only [decoded, routed, phase]
    cases hcall : Dispatch.decode .opening params with
    | error error =>
      rw [hcall] at summons
      refine .unheard summons ?_
      dsimp only
      have back : (session.pass next).lifecycle.abortHandshake = session.lifecycle :=
        starts.abortHandshake
      rw [back]
      exact (Unmoved.passed_back session next).trans (.reply _ id _ _)
    | ok call =>
      rw [hcall] at summons
      have summons : session.summons? payload = some (.opening id, call) := summons
      have named : session.named? payload = (call.params.get? "processId").bind Json.nat? := by
        unfold named?
        rw [summons]
      have heard : Heard m world session payload
          (((session.pass next).attend world (session.named? payload)).ask m (.opening id)
            call).2 :=
        .asked (.opening id) next call summons starts (.pass session next) ⟨rfl, rfl⟩
      have kept (pid : Option Nat) :
          ((session.pass next).attend world pid).bridge.released = false :=
        (Alike.attend (session.pass next) world pid).released.trans held
      rw [named] at heard
      dsimp only
      cases pid : (call.params.get? "processId").bind Json.nat? with
      | none =>
        rw [pid] at heard
        dsimp only
        rw [if_neg (by rw [show (session.pass next).bridge.released = false from held]; decide)]
        exact heard
      | some pid' =>
        rw [pid] at heard
        dsimp only
        have released : ((session.pass next).supervise world pid').bridge.released = false :=
          kept (some pid')
        rw [if_neg (by rw [released]; decide)]
        exact heard

/-- The confirmation of the handshake. -/
theorem confirmHandshake_heard (held : session.bridge.released = false) {method : String}
    {params : Json} (decoded : Incoming.decode payload = .ok (.notification method params))
    (routed : MethodTable.standard.route? method = some (.control .confirmation)) :
    Heard m world session payload (session.confirmHandshake m).2 := by
  unfold confirmHandshake
  split
  · next refused =>
    refine .unheard ?_ (.report session _)
    unfold Lifecycle.completeHandshake? at refused
    unfold summons?
    simp only [decoded, routed]
    cases phase : session.lifecycle.phase with
    | initializing => exact absurd (phase ▸ refused) (by simp)
    | _ => rfl
  · next next hnext =>
    have starts : Duty.confirmation.Starts session.lifecycle next := hnext
    have phase := starts.inv.1
    dsimp only
    rw [if_neg (by rw [show (session.pass next).bridge.released = false from held]; decide)]
    refine heard_asked ?_ nofun starts (.pass session next) ⟨rfl, rfl⟩
    unfold summons?
    simp only [decoded, routed, phase]

/-- The request for the shutdown. -/
theorem shutDown_heard (held : session.bridge.released = false) {id : RequestId} {method : String}
    {params : Json} (decoded : Incoming.decode payload = .ok (.request id method params))
    (routed : MethodTable.standard.route? method = some (.control .shutdown)) :
    Heard m world session payload (session.shutDown m id).2 := by
  unfold shutDown
  split
  · next error refused =>
    refine heard_reply ?_ id _ error
    unfold Lifecycle.beginShutdown at refused
    unfold summons?
    simp only [decoded, routed]
    cases phase : session.lifecycle.phase with
    | initialized => exact absurd (phase ▸ refused) (by simp)
    | _ => rfl
  · next next hnext =>
    have starts : (Duty.shutdown id).Starts session.lifecycle next := hnext
    have phase := starts.inv.1
    dsimp only
    rw [if_neg (by rw [show (session.pass next).bridge.released = false from held]; decide)]
    refine heard_asked ?_ nofun starts (.pass session next) ⟨rfl, rfl⟩
    unfold summons?
    simp only [decoded, routed, phase]

/-- The exit. -/
theorem leave_heard (held : session.bridge.released = false) {method : String} {params : Json}
    (decoded : Incoming.decode payload = .ok (.notification method params))
    (routed : MethodTable.standard.route? method = some (.control .exit)) :
    Heard m world session payload (session.leave m).2 := by
  unfold leave
  dsimp only
  rw [if_neg (by
    rw [show (session.report [⟨.info, .session, "exit received",
      [("after_shutdown", .flag session.lifecycle.shutdownRequested)]⟩]).bridge.released = false
        from held]
    decide)]
  have starts : Duty.exit.Starts session.lifecycle session.lifecycle := rfl
  refine heard_asked ?_ nofun starts (.report session _) ⟨rfl, rfl⟩
  unfold summons?
  simp only [decoded, routed]

/-- A notification for the engine. -/
theorem forward_heard (held : session.bridge.released = false) {notice : Engine.Notice}
    {method : String} {params : Json}
    (decoded : Incoming.decode payload = .ok (.notification method params))
    (routed : MethodTable.standard.route? method = some (.notice notice)) :
    Heard m world session payload (session.forward m notice params).2 := by
  unfold forward
  split
  · next refused =>
    refine .unheard ?_ (.report session _)
    unfold summons?
    simp only [decoded, routed]
    cases phase : session.lifecycle.phase with
    | initialized => exact absurd refused (by simp [Lifecycle.admitsNotifications, phase])
    | _ => rfl
  · next admitted =>
    have phase : session.lifecycle.phase = .initialized := by
      simpa [Lifecycle.admitsNotifications] using admitted
    have summons : session.summons? payload =
        (Dispatch.decode (.notice notice) params).toOption.map fun call =>
          (.notice notice, call) := by
      unfold summons?
      simp only [decoded, routed, phase]
    rw [if_neg (by rw [held]; decide)]
    split
    · next call hcall =>
      rw [hcall] at summons
      have starts : (Duty.notice notice).Starts session.lifecycle session.lifecycle := ⟨phase, rfl⟩
      exact heard_asked summons (by simp) starts (.refl session) ⟨rfl, rfl⟩
    · next error hcall =>
      rw [hcall] at summons
      exact .unheard summons (.report session _)

/-- Every frame asks the engine for what it summons it for, and for nothing else. -/
theorem handleFrame_heard (h : session.Coherent) (lives : session.hasEnded = false) :
    Heard m world session payload (session.handleFrame m world payload).2 := by
  have held := h.held lives
  unfold handleFrame
  split
  · next id method params decoded =>
    have silent (others : MethodTable.standard.route? method ≠ some (.control .opening) ∧
        MethodTable.standard.route? method ≠ some (.control .shutdown)) :
        session.summons? payload = none := by
      unfold summons?
      simp only [decoded]
      split
      · next opens _ => exact absurd opens others.1
      · next shuts _ => exact absurd shuts others.2
      · rfl
    unfold handleRequest
    split
    · next routed => exact heard_reply (silent (by simp [routed])) id _ _
    · next routed => exact openHandshake_heard held decoded routed
    · next routed => exact shutDown_heard held decoded routed
    · next control opens shuts routed =>
      refine heard_reply (silent ⟨?_, ?_⟩) id _ _
      · exact fun same => opens (Route.control.inj (Option.some.inj (routed.symm.trans same)))
      · exact fun same => shuts (Route.control.inj (Option.some.inj (routed.symm.trans same)))
    · next routed => exact heard_reply (silent (by simp [routed])) id _ _
    · next routed => exact .unheard (silent (by simp [routed])) (.spawn session id _ params)
  · next method params decoded =>
    unfold handleNotification
    split
    · next routed =>
      refine .unheard ?_ (.report session _)
      unfold summons?
      simp only [decoded, routed]
    · next routed => exact confirmHandshake_heard held decoded routed
    · next routed => exact leave_heard held decoded routed
    · next routed =>
      refine .unheard ?_ (.cancel session params)
      unfold summons?
      simp only [decoded, routed]
    · next control confirms leaves cancels routed =>
      refine .unheard ?_ (.report session _)
      unfold summons?
      simp only [decoded, routed]
      split
      · next same _ => exact absurd (Route.control.inj (Option.some.inj same)) confirms
      · next same => exact absurd (Route.control.inj (Option.some.inj same)) leaves
      · next same _ => exact absurd (Option.some.inj same) nofun
      · rfl
    · next feature routed =>
      refine .unheard ?_ (.report session _)
      unfold summons?
      simp only [decoded, routed]
    · next notice routed => exact forward_heard held decoded routed
  · next decoded =>
    refine .unheard ?_ (.report session _)
    unfold summons?
    simp only [decoded]
  · next rejection decoded =>
    refine .unheard ?_ ⟨⟨rfl, rfl⟩, rfl, rfl, rfl⟩
    unfold summons?
    simp only [decoded]

end Frames

end LspGateway.Session
