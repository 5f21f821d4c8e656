import LspGateway.Bridge.Supervision
import LspGateway.Proofs.Bridge.Forwarding

/-!
# What the teardown undoes

The teardown of a bridge undoes what is recorded and stops who is in charge. That leaves
nothing behind, since every subscription at the hub is recorded, and every supervisor that
was not stopped is in charge. Neither forwarding nor the watch over processes changes that.
-/

namespace LspGateway

namespace Supervisor

/-- A turn does not tell a supervisor to stop, and leaves it its process. -/
theorem turn_next (supervisor : Supervisor) (cancelled : Bool) (now : Nat)
    (answer : Except ProbeError Bool) :
    (supervisor.turn cancelled now answer).next.stopped = supervisor.stopped ∧
      (supervisor.turn cancelled now answer).next.pid = supervisor.pid := by
  unfold turn ask finish
  split
  · exact ⟨rfl, rfl⟩
  · split
    · exact ⟨rfl, rfl⟩
    · split
      · rcases answer with _ | (_ | _) <;> exact ⟨rfl, rfl⟩
      · exact ⟨rfl, rfl⟩

/-- Whoever is told to stop keeps the process. -/
theorem map_pid_modify_stop (supervisors : List Supervisor) (number : Nat) :
    (supervisors.modify number stop).map pid = supervisors.map pid := by
  refine List.ext_getElem? fun index => ?_
  simp only [List.getElem?_map, List.getElem?_modify]
  split <;> cases supervisors[index]? <;> rfl

end Supervisor

namespace Bridge

variable {state pending : Type}

/-- Every subscription at the hub is recorded, and none is after the teardown. -/
structure Booked (bridge : Bridge state) : Prop where
  /-- A subscription has its record. -/
  recorded : ∀ subscription ∈ bridge.hub.subscriptions,
    ∃ record ∈ bridge.recorded, record.id = subscription.id
  /-- After the teardown nothing is recorded. -/
  undone : bridge.disposed = true → bridge.recorded = []

/-- Every supervisor that was not stopped is in charge, and none is after the teardown. -/
structure Watched (bridge : Bridge state) : Prop where
  /-- A supervisor was stopped, or it is in charge. -/
  stopped : ∀ number supervisor, bridge.supervisors[number]? = some supervisor →
    supervisor.stopped = true ∨ bridge.attached = some number
  /-- After the teardown no supervisor is in charge. -/
  undone : bridge.disposed = true → bridge.attached = none

/-- As long as nobody is in charge, every supervisor was stopped. -/
theorem Watched.stopped_of_free {bridge : Bridge state} (h : bridge.Watched)
    (free : bridge.attached = none) {number : Nat} {supervisor : Supervisor}
    (found : bridge.supervisors[number]? = some supervisor) : supervisor.stopped = true :=
  (h.stopped number supervisor found).resolve_right (by simp [free])

/-! ## The watch over processes -/

/-- In its turn a supervisor keeps its process. -/
theorem map_pid_turnSupervisor (bridge : Bridge state) (number : Nat) (cancelled : Bool)
    (now : Nat) (probe : Nat → Except Supervisor.ProbeError Bool) :
    (bridge.turnSupervisor number cancelled now probe).2.supervisors.map Supervisor.pid =
      bridge.supervisors.map Supervisor.pid := by
  unfold Bridge.turnSupervisor
  split
  · rfl
  · next supervisor found =>
    obtain ⟨-, pid⟩ := supervisor.turn_next cancelled now (probe supervisor.pid)
    obtain ⟨bound, rfl⟩ := List.getElem?_eq_some_iff.mp found
    have bound : number < (bridge.supervisors.map Supervisor.pid).length := by simpa using bound
    change (bridge.supervisors.set number _).map Supervisor.pid = _
    rw [List.map_set, pid, ← List.getElem_map Supervisor.pid (h := bound), List.set_getElem_self]

/-- One bridge has come of another by the watch over processes: no supervisor is
forgotten. -/
structure Watches (before after : Bridge state) : Prop where
  /-- Supervisors are only added, and each keeps its process. -/
  started : before.supervisors.map Supervisor.pid <+: after.supervisors.map Supervisor.pid
  /-- Those that were not stopped are in charge as before. -/
  watched : before.Watched → after.Watched

namespace Watches

/-- Nothing has happened to a supervisor. -/
theorem ofEq {before after : Bridge state} (supervisors : after.supervisors = before.supervisors)
    (attached : after.attached = before.attached) (disposed : after.disposed = before.disposed) :
    before.Watches after := by
  refine ⟨supervisors ▸ List.prefix_rfl, fun watched => ⟨?_, ?_⟩⟩
  · rw [supervisors, attached]
    exact watched.stopped
  · rw [disposed, attached]
    exact watched.undone

/-- Nothing at all has happened. -/
theorem refl (bridge : Bridge state) : bridge.Watches bridge :=
  .ofEq rfl rfl rfl

/-- The watch goes on. -/
theorem trans {a b c : Bridge state} (hab : a.Watches b) (hbc : b.Watches c) : a.Watches c :=
  ⟨hab.started.trans hbc.started, hbc.watched ∘ hab.watched⟩

/-- Forwarding events is no matter of supervisors. -/
theorem ofNotified {before after : Bridge state} (h : before.Notified after) :
    before.Watches after :=
  .ofEq h.supervisors h.attached h.disposed

/-- A supervisor is started and put in charge, if nobody is. -/
theorem supervise (bridge : Bridge state) (free : bridge.attached = none) (pid interval now : Nat) :
    bridge.Watches ((bridge.spawnSupervisor pid interval now).2.attachSupervisor
      (bridge.spawnSupervisor pid interval now).1).2 := by
  let last := bridge.supervisors.length
  let started := bridge.supervisors ++ [Supervisor.start pid interval now]
  have grows : bridge.supervisors.map Supervisor.pid <+: started.map Supervisor.pid := by
    simp [started]
  -- A supervisor is the new one, or was stopped before.
  have cases (watched : bridge.Watched) {number : Nat} {supervisor : Supervisor}
      (found : started[number]? = some supervisor) :
      supervisor.stopped = true ∨ last = number := by
    by_cases earlier : number < last
    · rw [List.getElem?_append_left earlier] at found
      exact .inl (watched.stopped_of_free free found)
    · have bound := (List.getElem?_eq_some_iff.mp found).1
      rw [List.length_append, List.length_singleton] at bound
      exact .inr (by omega)
  unfold attachSupervisor
  split
  · refine ⟨?_, fun watched => ⟨?_, fun _ => free⟩⟩
    · change _ <+: (started.modify last Supervisor.stop).map Supervisor.pid
      rw [Supervisor.map_pid_modify_stop]
      exact grows
    · intro number supervisor found
      change (started.modify last Supervisor.stop)[number]? = some supervisor at found
      rw [List.getElem?_modify, Option.map_eq_map, Option.map_eq_some_iff] at found
      obtain ⟨earlier, hearlier, rfl⟩ := found
      split
      · exact .inl rfl
      · next other => exact .inl ((cases watched hearlier).resolve_right other)
  · next lives =>
    have same : (bridge.spawnSupervisor pid interval now).2.stopAttached =
        (bridge.spawnSupervisor pid interval now).2 := by
      simp [stopAttached, spawnSupervisor, report, free]
    rw [same]
    refine ⟨grows, fun watched => ⟨?_, fun disposed => absurd disposed lives⟩⟩
    exact fun number supervisor found => (cases watched found).imp_right (congrArg some)

/-- A turn neither stops a supervisor nor starts it again. -/
theorem turnSupervisor (bridge : Bridge state) (number : Nat) (cancelled : Bool) (now : Nat)
    (probe : Nat → Except Supervisor.ProbeError Bool) :
    bridge.Watches (bridge.turnSupervisor number cancelled now probe).2 := by
  have same := map_pid_turnSupervisor bridge number cancelled now probe
  unfold Bridge.turnSupervisor at same ⊢
  split
  · exact refl bridge
  · next supervisor found =>
    rw [found] at same
    obtain ⟨stopped, -⟩ := supervisor.turn_next cancelled now (probe supervisor.pid)
    refine ⟨?_, fun watched => ⟨?_, watched.undone⟩⟩
    · exact same ▸ List.prefix_rfl
    · intro other next hnext
      change (bridge.supervisors.set number _)[other]? = some next at hnext
      rw [List.getElem?_set] at hnext
      split at hnext
      · next same =>
        split at hnext
        · obtain rfl := Option.some.inj hnext
          subst same
          rw [stopped]
          exact watched.stopped number supervisor found
        · cases hnext
      · exact watched.stopped other next hnext

end Watches

/-! ## The beginning -/

/-- At the beginning of a session there is a recorded subscription for every kind of
event. -/
theorem booked_connect (engine : state) :
    (ofEngine engine).connect.2.Booked ∧
      (ofEngine engine).connect.2.recorded.map Record.kind = EventKind.all := by
  refine ⟨⟨fun subscription member => ?_, fun disposed => absurd disposed Bool.false_ne_true⟩, rfl⟩
  have ids : (ofEngine engine).connect.2.hub.subscriptions.map Hub.Subscription.id =
      (ofEngine engine).connect.2.recorded.map Record.id := rfl
  exact List.mem_map.mp (ids ▸ List.mem_map_of_mem member)

/-- Nobody watches at the beginning. -/
theorem watched_connect (engine : state) : (ofEngine engine).connect.2.Watched := by
  have nobody : (ofEngine engine).connect.2.supervisors = [] := rfl
  refine ⟨fun number supervisor found => absurd found ?_, fun _ => rfl⟩
  rw [nobody]
  simp

/-! ## The teardown -/

/-- Stopping who is in charge forgets no supervisor. -/
theorem map_pid_stopAttached (bridge : Bridge state) :
    bridge.stopAttached.supervisors.map Supervisor.pid =
      bridge.supervisors.map Supervisor.pid := by
  unfold stopAttached
  split
  · exact Supervisor.map_pid_modify_stop _ _
  · rfl

/-- Once who is in charge was stopped, everybody was. -/
theorem Watched.stopped_stopAttached {bridge : Bridge state} (h : bridge.Watched) :
    ∀ supervisor ∈ bridge.stopAttached.supervisors, supervisor.stopped = true := by
  intro supervisor member
  obtain ⟨index, found⟩ := List.mem_iff_getElem?.mp member
  unfold stopAttached at found
  split at found
  · next number charge =>
    simp only [stopSupervisor, List.getElem?_modify, Option.map_eq_map,
      Option.map_eq_some_iff] at found
    obtain ⟨earlier, hearlier, rfl⟩ := found
    split
    · rfl
    · next other =>
      exact (h.stopped index earlier hearlier).resolve_right
        fun same => other (Option.some.inj (charge.symm.trans same))
  · next free => exact h.stopped_of_free free found

/-- Undoing subscriptions removes those that are recorded, and leaves the supervisors
alone. -/
theorem foldl_unsubscribe_undoes (records : List Record) (bridge : Bridge state)
    (held : bridge.released = false) :
    let undone := records.foldl (fun bridge record =>
      bridge.unsubscribe (!bridge.released) record) bridge
    (∀ subscription ∈ undone.hub.subscriptions, subscription ∈ bridge.hub.subscriptions ∧
      ∀ record ∈ records, record.id ≠ subscription.id) ∧
    undone.recorded = bridge.recorded ∧ undone.supervisors = bridge.supervisors ∧
      undone.attached = bridge.attached := by
  induction records generalizing bridge with
  | nil => exact ⟨fun _ member => ⟨member, fun _ hr => absurd hr List.not_mem_nil⟩, rfl, rfl, rfl⟩
  | cons record rest ih =>
    obtain ⟨removed, hrecorded, hsupervisors, hattached⟩ :=
      ih (bridge.unsubscribe (!bridge.released) record) held
    refine ⟨fun subscription member => ?_, hrecorded, hsupervisors, hattached⟩
    obtain ⟨left, others⟩ := removed subscription member
    simp only [unsubscribe, report, Hub.unsubscribe, held, Bool.not_false, if_true,
      List.mem_filter, bne_iff_ne] at left
    exact ⟨left.1, List.forall_mem_cons.mpr ⟨left.2.symm, others⟩⟩

/-- Giving the engine away has nothing to do with subscriptions and supervisors. -/
theorem release_keeps (m : Engine state pending) (bridge : Bridge state) :
    (release m bridge).1.hub = bridge.hub ∧ (release m bridge).1.recorded = bridge.recorded ∧
      (release m bridge).1.supervisors = bridge.supervisors ∧
      (release m bridge).1.attached = bridge.attached := by
  unfold release
  split <;> exact ⟨rfl, rfl, rfl, rfl⟩

/-- What the teardown does to subscriptions and supervisors: what is recorded is removed,
and who is in charge is stopped. -/
theorem tearDown_undoes (m : Engine state pending) {bridge : Bridge state}
    (hd : bridge.disposed = false) (hr : bridge.released = false) :
    (∀ subscription ∈ (tearDown m bridge).1.hub.subscriptions,
      subscription ∈ bridge.hub.subscriptions ∧
        ∀ record ∈ bridge.recorded, record.id ≠ subscription.id) ∧
    (tearDown m bridge).1.recorded = [] ∧
      (tearDown m bridge).1.supervisors = bridge.stopAttached.supervisors ∧
      (tearDown m bridge).1.attached = none := by
  obtain ⟨removed, hrecorded, hsupervisors, hattached⟩ := foldl_unsubscribe_undoes bridge.recorded
    { bridge with disposed := true, recorded := [], attached := none } hr
  simp only [tearDown, stopAttached, hd, Bool.false_eq_true, if_false]
  generalize bridge.recorded.foldl _ _ = undone at removed hrecorded hsupervisors hattached ⊢
  split
  · next number charge =>
    obtain ⟨hhub, hrec, hsup, hatt⟩ := release_keeps m (undone.stopSupervisor number)
    rw [hhub, hrec, hsup, hatt]
    exact ⟨removed, hrecorded, congrArg (List.modify · number Supervisor.stop) hsupervisors,
      hattached⟩
  · obtain ⟨hhub, hrec, hsup, hatt⟩ := release_keeps m undone
    rw [hhub, hrec, hsup, hatt]
    exact ⟨removed, hrecorded, hsupervisors, hattached⟩

/-- Nothing is left of what the bridge took hold of. -/
structure Undone (bridge : Bridge state) : Prop where
  /-- No subscription is left. -/
  subscriptions : bridge.hub.subscriptions = []
  /-- No subscription is recorded. -/
  recorded : bridge.recorded = []
  /-- Every supervisor was stopped. -/
  stopped : ∀ supervisor ∈ bridge.supervisors, supervisor.stopped = true
  /-- Nobody is in charge. -/
  attached : bridge.attached = none

namespace Undone

variable {bridge : Bridge state}

/-- Nothing is left, and so everything that is left is recorded. -/
theorem booked (h : bridge.Undone) : bridge.Booked :=
  ⟨fun _ member => absurd (h.subscriptions ▸ member) List.not_mem_nil, fun _ => h.recorded⟩

/-- Everybody was stopped. -/
theorem watched (h : bridge.Undone) : bridge.Watched :=
  ⟨fun _ _ found => .inl (h.stopped _ (List.mem_of_getElem? found)), fun _ => h.attached⟩

/-- After the teardown nothing is left. -/
theorem ofDisposed (booked : bridge.Booked) (watched : bridge.Watched)
    (disposed : bridge.disposed = true) : bridge.Undone := by
  have free := watched.undone disposed
  refine ⟨List.eq_nil_iff_forall_not_mem.mpr fun subscription member => ?_,
    booked.undone disposed, fun supervisor member => ?_, free⟩
  · obtain ⟨record, recorded, -⟩ := booked.recorded subscription member
    exact absurd (booked.undone disposed ▸ recorded) List.not_mem_nil
  · obtain ⟨number, found⟩ := List.mem_iff_getElem?.mp member
    exact watched.stopped_of_free free found

end Undone

/-- The teardown leaves nothing, whatever the engine publishes meanwhile. -/
theorem undone_runOnce (m : Engine state pending) {bridge : Bridge state} (h : bridge.OnlyForwards)
    (booked : bridge.Booked) (watched : bridge.Watched) (hd : bridge.disposed = false)
    (hr : bridge.released = false) : (bridge.runOnce m).2.1.Undone := by
  obtain ⟨removed, hrecorded, hsupervisors, hattached⟩ := tearDown_undoes m hd hr
  have rest := notified_runOnce m h hd hr
  refine ⟨?_, rest.recorded.trans hrecorded, ?_, rest.attached.trans hattached⟩
  · rw [rest.hub]
    refine List.eq_nil_iff_forall_not_mem.mpr fun subscription member => ?_
    obtain ⟨held, others⟩ := removed subscription member
    obtain ⟨record, hrecord, hid⟩ := booked.recorded subscription held
    exact others record hrecord hid
  · rw [rest.supervisors, hsupervisors]
    exact watched.stopped_stopAttached

/-- The teardown forgets no supervisor. -/
theorem map_pid_runOnce (m : Engine state pending) {bridge : Bridge state} (h : bridge.OnlyForwards)
    (hd : bridge.disposed = false) (hr : bridge.released = false) :
    (bridge.runOnce m).2.1.supervisors.map Supervisor.pid =
      bridge.supervisors.map Supervisor.pid := by
  obtain ⟨-, -, hsupervisors, -⟩ := tearDown_undoes m hd hr
  rw [(notified_runOnce m h hd hr).supervisors, hsupervisors, map_pid_stopAttached]

end Bridge

end LspGateway
