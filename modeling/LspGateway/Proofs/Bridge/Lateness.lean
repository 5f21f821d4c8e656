import LspGateway.Proofs.Bridge.Silence

/-!
# Subscriptions that come too late

After the teardown a bridge records nothing any more. What is handed over to be recorded has its
gate closed at once, but it is not taken from the hub: the engine was given away in the teardown,
and with it the way to the hub. So whoever connects by an adapter of their own, which holds the
engine still, leaves a subscription of every kind behind, of which nothing comes.
-/

namespace LspGateway

/-- A further subscriber counts for its own kind alone. -/
theorem Hub.count_subscribe {handler : Type} (hub : Hub handler) (kind other : EventKind)
    (handle : handler) :
    (hub.subscribe kind handle).2.count other = hub.count other + if kind = other then 1 else 0 := by
  rw [count, listeners, count, listeners, subscribe, List.filter_append, List.map_append,
    List.length_append]
  by_cases same : kind = other <;> simp [same]

namespace Bridge

variable {state pending : Type}

/-! ## Connecting by other adapters -/

/-- Subscribes to every kind of event by an adapter that may have given the engine away, the
subscriptions being recorded with this bridge; yields how many of them stay. -/
def connectBy (released : Bool) (bridge : Bridge state) : Nat × Bridge state :=
  if released then (0, bridge)
  else EventKind.all.foldl (fun (live, bridge) kind =>
    let (subscription, bridge) := bridge.subscribe kind
    let (kept, bridge) := bridge.record subscription
    (live + kept.toNat, bridge)) (0, bridge)

/-- A bridge connects by its own adapter. -/
theorem connect_eq (bridge : Bridge state) : bridge.connect = bridge.connectBy bridge.released := rfl

/-- Subscribes to a kind of events and closes the gate at once. -/
def linger (bridge : Bridge state) (kind : EventKind) : Bridge state :=
  (bridge.subscribe kind).2.unsubscribe false (bridge.subscribe kind).1

/-- Connecting in vain is to do so for every kind, as long as the engine is there. -/
theorem connectInVain_eq (bridge : Bridge state) :
    bridge.connectInVain = if bridge.released then bridge else EventKind.all.foldl linger bridge :=
  rfl

/-- A bridge that was torn down: nothing is recorded, no gate is open, and the engine is out of
reach. -/
structure Over (bridge : Bridge state) : Prop where
  /-- The teardown has begun. -/
  disposed : bridge.disposed = true
  /-- The engine was given away. -/
  released : bridge.released = true
  /-- No gate is open. -/
  shut : ∀ gate, bridge.gateOpen gate = false

section Over

variable {bridge : Bridge state}

/-- Where gates are guarded, the teardown leaves it at that. -/
theorem Guarded.isOver (h : bridge.Guarded) (torn : bridge.disposed = true) : bridge.Over :=
  ⟨torn, h.released torn, h.gateOpen_eq_false torn⟩

/-- What is to be recorded after the teardown has its gate closed, and the hub is left alone. -/
theorem record_of_released (disposed : bridge.disposed = true) (released : bridge.released = true)
    (record : Record) : bridge.record record = (false, bridge.unsubscribe false record) := by
  rw [Bridge.record, if_pos disposed, released]
  rfl

/-- After the teardown a subscription lingers at the hub, behind a closed gate. -/
theorem Over.linger (h : bridge.Over) (kind : EventKind) :
    (bridge.linger kind).Over ∧
      (bridge.linger kind).hub =
        (bridge.hub.subscribe kind (.forward bridge.gates.length)).2 := by
  refine ⟨⟨h.disposed, h.released, fun gate => Bool.eq_false_iff.mpr fun still => ?_⟩, rfl⟩
  obtain ⟨subscribed, other⟩ := (gateOpen_unsubscribe _ false _ gate).mp still
  rcases (gateOpen_subscribe bridge kind gate).mp subscribed with before | now
  · exact absurd ((h.shut gate).symm.trans before) Bool.false_ne_true
  · exact other now.symm

/-- One subscription after the other lingers; each is counted at the hub. -/
theorem Over.foldl_linger (h : bridge.Over) (kinds : List EventKind) :
    (kinds.foldl Bridge.linger bridge).Over ∧
      ∀ kind, (kinds.foldl Bridge.linger bridge).hub.count kind =
        bridge.hub.count kind + kinds.count kind := by
  induction kinds generalizing bridge with
  | nil => exact ⟨h, fun _ => rfl⟩
  | cons first rest ih =>
    obtain ⟨past, hub⟩ := h.linger first
    obtain ⟨still, counts⟩ := ih past
    refine ⟨still, fun kind => ?_⟩
    rw [List.foldl_cons, counts kind, hub, Hub.count_subscribe, List.count_cons]
    simp only [beq_iff_eq]
    omega

/-- Connecting after the teardown, by an adapter that holds the engine, leaves a subscription of
every kind behind; none of them stays in the sense of the bridge. -/
theorem Over.connectBy (h : bridge.Over) (released : Bool) :
    bridge.connectBy released =
      (0, if released then bridge else EventKind.all.foldl Bridge.linger bridge) := by
  have each (kinds : List EventKind) :
      kinds.foldl (fun (live, bridge) kind =>
        let (subscription, bridge) := bridge.subscribe kind
        let (kept, bridge) := bridge.record subscription
        (live + kept.toNat, bridge)) (0, bridge) = (0, kinds.foldl Bridge.linger bridge) := by
    induction kinds generalizing bridge with
    | nil => rfl
    | cons kind rest ih =>
      -- Nothing is recorded, so the number stays as it is, and the bridge is over as before.
      have disposed : (bridge.subscribe kind).2.disposed = true := h.disposed
      have released : (bridge.subscribe kind).2.released = true := h.released
      have subscribed : (bridge.subscribe kind).2.record (bridge.subscribe kind).1 =
          (false, bridge.linger kind) :=
        record_of_released disposed released _
      rw [List.foldl_cons, List.foldl_cons, ← ih (h.linger kind).1]
      dsimp only
      rw [subscribed]
      rfl
  cases released with
  | true => rfl
  | false => exact each EventKind.all

/-- Every kind is subscribed to once. -/
theorem count_all (kind : EventKind) : EventKind.all.count kind = 1 := by
  cases kind <;> rfl

/-- Connecting once more after the teardown, by an adapter that has given the engine away or not. -/
theorem Over.connected (h : bridge.Over) (released : Bool) :
    (bridge.connectBy released).2.Over ∧
      ∀ kind, (bridge.connectBy released).2.hub.count kind =
        bridge.hub.count kind + (!released).toNat := by
  rw [h.connectBy released]
  cases released with
  | true => exact ⟨h, fun _ => rfl⟩
  | false =>
    obtain ⟨past, counts⟩ := h.foldl_linger EventKind.all
    exact ⟨past, fun kind => (counts kind).trans (by rw [count_all]; rfl)⟩

/-- Connecting several times after the teardown. -/
theorem Over.foldl_connectBy (h : bridge.Over) (adapters : List Bool) :
    let after := adapters.foldl (fun bridge released => (bridge.connectBy released).2) bridge
    after.Over ∧ ∀ kind, after.hub.count kind = bridge.hub.count kind + adapters.count false := by
  induction adapters generalizing bridge with
  | nil => exact ⟨h, fun _ => rfl⟩
  | cons released rest ih =>
    obtain ⟨past, now⟩ := h.connected released
    obtain ⟨still, later⟩ := ih past
    refine ⟨still, fun kind => ?_⟩
    rw [List.foldl_cons, later kind, now kind, List.count_cons]
    cases released <;> simp
    omega

end Over

/-- Whatever has happened to a bridge that was torn down: what is to be recorded with it is not,
its gate is closed, and the hub is left as it is, so that a subscription which the hub holds stays
there. Whoever connects by whatever adapter is told that none of the subscriptions stays, and no
gate is open; but each connection by an adapter that holds the engine leaves one subscription of
every kind at the hub. Only if there is no such adapter are the counts those from before. The
bridge itself connects to nothing. -/
theorem lingering_after_tearDown (m : Engine state pending) (engine : state)
    (earlier : List Move)
    (torn : ((Scene.start engine).run m earlier).bridge.disposed = true) :
    let bridge := ((Scene.start engine).run m earlier).bridge
    (∀ record, (bridge.record record).1 = false ∧
      (bridge.record record).2.gateOpen record.gate = false ∧
      (bridge.record record).2.hub = bridge.hub) ∧
    ∀ adapters : List Bool,
      let after := adapters.foldl (fun bridge released => (bridge.connectBy released).2) bridge
      (∀ released, (after.connectBy released).1 = 0) ∧
      (∀ gate, after.gateOpen gate = false) ∧
      (∀ kind, after.hub.count kind = bridge.hub.count kind + adapters.count false) ∧
      ((∀ kind, after.hub.count kind = bridge.hub.count kind) ↔ false ∉ adapters) ∧
      after.connect = (0, after) := by
  intro bridge
  have guarded : bridge.Guarded := (Scene.run_hushed m (.ofEngine engine) earlier).guarded
  have past : bridge.Over := guarded.isOver torn
  refine ⟨fun record => ?_, fun adapters => ?_⟩
  · rw [record_of_released past.disposed past.released record]
    refine ⟨rfl, Bool.eq_false_iff.mpr fun still => ?_, rfl⟩
    exact ((gateOpen_unsubscribe bridge false record record.gate).mp still).2 rfl
  · intro after
    obtain ⟨still, counts⟩ := past.foldl_connectBy adapters
    refine ⟨fun released => by rw [still.connectBy released], still.shut, counts, ?_, ?_⟩
    · rw [← List.count_eq_zero]
      constructor
      · intro same
        have lingers := counts .telemetry
        have before := same .telemetry
        simp only [after] at before
        omega
      · intro none kind
        exact (counts kind).trans (by rw [none, Nat.add_zero])
    · rw [connect_eq, still.released]
      rfl

/-- A bridge that is connected and torn down at once; then somebody connects by an adapter of
their own. -/
theorem lingering_after_tearDown_elsewhere :
    let bridge := ((Scene.start ()).run Engine.bare [.connect, .act .tearDown, .work]).bridge
    bridge.disposed = true ∧ bridge.hub.count .telemetry = 0 ∧
      (∀ record, (bridge.record record).1 = false ∧
        (bridge.record record).2.gateOpen record.gate = false ∧
        (bridge.record record).2.hub = bridge.hub) ∧
      (bridge.connectBy false).2.hub.count .telemetry = 1 := by
  intro bridge
  have torn : bridge.disposed = true := by decide +kernel
  have none : bridge.hub.count .telemetry = 0 := by decide +kernel
  obtain ⟨late, connects⟩ :=
    lingering_after_tearDown Engine.bare () [.connect, .act .tearDown, .work] torn
  refine ⟨torn, none, late, ?_⟩
  have left := (connects [false]).2.2.1 .telemetry
  exact left.trans (congrArg (· + 1) none)

end Bridge

end LspGateway
