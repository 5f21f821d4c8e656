import LspGateway.Proofs.Bridge.Roster

/-!
# Disposal

The first who tears a bridge down has everything undone that was recorded, and then the engine
is disposed of; for whoever comes later there is nothing left to do. Until then the hub holds
what is recorded, and of the supervisors handed over the last one is in charge; from then on
neither is left. Subscriptions of others are not touched. That holds between any two tasks, and
so wherever a handler in the middle of an emission begins the teardown.
-/

namespace LspGateway.Bridge

variable {state pending : Type} {others : List (Hub.Subscription Handler)}

/-! ## What is told of the teardown -/

/-- What is noted beside a bridge is true of it; a bridge that lives has recorded so many
subscriptions. -/
structure Accounted (connects : Nat) (others : List (Hub.Subscription Handler))
    (handed : List Nat) (torn : List Bool) (bridge : Bridge (Engine.Recorded state)) : Prop where
  /-- Subscriptions are recorded, or of others. -/
  rostered : Rostered others bridge
  /-- An open gate is recorded. -/
  guarded : bridge.Guarded
  /-- The last supervisor handed over is in charge. -/
  charged : Charged handed bridge
  /-- The engine is out of reach after the teardown, and not before. -/
  reach : bridge.released = bridge.disposed
  /-- Every time that the bridge was connected it subscribed to every kind. -/
  counted : bridge.disposed = false →
    bridge.recorded.length = EventKind.all.length * connects
  /-- The first who tore the bridge down was told so, and nobody else. -/
  told : bridge.disposed = false ∧ torn = [] ∨
    bridge.disposed = true ∧ ∃ again, torn = true :: .replicate again false
  /-- The engine was disposed of by the teardown, and not before. -/
  record : bridge.engine.record = if bridge.disposed then [.disposal] else []

namespace Accounted

variable {connects : Nat} {handed : List Nat} {torn : List Bool}
  {bridge after : Bridge (Engine.Recorded state)}

/-- A new bridge. -/
theorem ofEngine (engine : state) :
    Accounted 0 [] [] [] (Bridge.ofEngine (⟨engine, []⟩ : Engine.Recorded state)) :=
  ⟨.ofEngine _, .ofEngine _, .ofEngine _, rfl, fun _ => rfl, .inl ⟨rfl, rfl⟩, rfl⟩

/-- Whatever happens to supervisors, and whatever is reported or queued. -/
theorem supervised (h : Accounted connects others handed torn bridge) {charge : List Nat}
    (charged : Charged charge after) (engine : after.engine = bridge.engine)
    (hub : after.hub = bridge.hub) (gates : after.gates = bridge.gates)
    (released : after.released = bridge.released) (disposed : after.disposed = bridge.disposed)
    (recorded : after.recorded = bridge.recorded) :
    Accounted connects others charge torn after where
  rostered := h.rostered.congr hub recorded
  guarded := h.guarded.congr gates recorded disposed released
  charged := charged
  reach := by rw [released, disposed, h.reach]
  counted := fun lives => by rw [recorded, h.counted (disposed ▸ lives)]
  told := disposed ▸ h.told
  record := by rw [engine, disposed, h.record]

/-- An event is forwarded, or something is reported. -/
theorem notified (h : Accounted connects others handed torn bridge) (n : bridge.Notified after) :
    Accounted connects others handed torn after :=
  h.supervised (h.charged.congr n.supervisors n.attached n.disposed) n.engine n.hub n.gates
    n.released n.disposed n.recorded

/-- A supervisor is handed over. -/
theorem attach (h : Accounted connects others handed torn bridge) {number : Nat}
    (started : number < bridge.supervisors.length) (fresh : number ∉ handed) :
    Accounted connects others (handed ++ [number]) torn (bridge.attachSupervisor number).2 := by
  have charged := h.charged.attach started fresh
  obtain ⟨supervisors, attached, same⟩ := bridge.exists_attachSupervisor number
  rw [same] at charged ⊢
  exact h.supervised charged rfl rfl rfl rfl rfl rfl

/-- A supervisor has a turn. -/
theorem watch (h : Accounted connects others handed torn bridge) (number : Nat)
    (cancelled : Bool) (now : Nat) (probe : Nat → Except Supervisor.ProbeError Bool) :
    Accounted connects others handed torn
      (bridge.turnSupervisor number cancelled now probe).2 := by
  have charged := h.charged.watch number cancelled now probe
  obtain ⟨supervisors, journal, same⟩ := bridge.exists_turnSupervisor number cancelled now probe
  rw [same] at charged ⊢
  exact h.supervised charged rfl rfl rfl rfl rfl rfl

/-- Others change their subscriptions. -/
theorem renewed (h : Accounted connects others handed torn bridge) {hub : Hub Handler}
    {theirs : List (Hub.Subscription Handler)}
    (rostered : Rostered theirs { bridge with hub := hub }) :
    Accounted connects theirs handed torn { bridge with hub := hub } :=
  ⟨rostered, h.guarded.congr rfl rfl rfl rfl, h.charged.congr rfl rfl rfl, h.reach, h.counted,
    h.told, h.record⟩

/-- The bridge is connected; after the teardown that does nothing. -/
theorem connect (h : Accounted connects others handed torn bridge) :
    Accounted (connects + 1) others handed torn bridge.connect.2 := by
  cases torn' : bridge.disposed with
  | true =>
    have nothing : bridge.connect = (0, bridge) := if_pos (h.reach.trans torn')
    rw [nothing]
    exact { h with counted := fun lives => absurd (lives.symm.trans torn') Bool.false_ne_true }
  | false =>
    have guarded := h.guarded.connect.guarded
    rw [connect_of_held (h.reach.trans torn')] at guarded ⊢
    obtain ⟨rostered, recorded, engine, disposed, released, supervisors, attached⟩ :=
      h.rostered.foldl_enlist torn' EventKind.all
    refine ⟨rostered, guarded, h.charged.congr supervisors attached disposed, ?_, fun _ => ?_,
      disposed ▸ h.told, ?_⟩
    · rw [released, disposed, h.reach]
    · rw [recorded, h.counted torn', Nat.mul_succ]
    · rw [engine, disposed, h.record]

/-- Once more the bridge is torn down. -/
theorem again (h : Accounted connects others handed torn bridge) (late : bridge.disposed = true) :
    Accounted connects others handed (torn ++ [false]) bridge := by
  refine { h with told := .inr ⟨late, ?_⟩ }
  rcases h.told with ⟨lives, -⟩ | ⟨-, again, rfl⟩
  · exact absurd (lives.symm.trans late) Bool.false_ne_true
  · exact ⟨again + 1, by rw [List.replicate_succ']; rfl⟩

/-- For the first time the bridge is torn down. -/
theorem tearDown (m : Engine state pending) (h : Accounted connects others handed torn bridge)
    (lives : bridge.disposed = false) :
    Accounted connects others handed (torn ++ [true])
      (Bridge.tearDown (.recording m) bridge).1 := by
  obtain ⟨guarded, disposed, -⟩ := h.guarded.tearDown (.recording m)
  obtain ⟨left, d, torn'⟩ := tearDown_of_live (.recording m) lives (h.reach.trans lives)
  rw [torn'] at guarded disposed ⊢
  have first : torn = [] := by
    rcases h.told with ⟨-, first⟩ | ⟨late, -⟩
    · exact first
    · exact absurd (lives.symm.trans late) Bool.false_ne_true
  refine ⟨(h.rostered.dismantled d).congr rfl rfl, guarded,
    (h.charged.dismantled d lives).congr rfl rfl rfl, ?_, ?_, .inr ⟨d.disposed, 0, ?_⟩, ?_⟩
  · exact d.released.trans d.disposed.symm
  · exact fun still => absurd (still.symm.trans d.disposed) Bool.false_ne_true
  · rw [first]
    rfl
  · change left.engine.record ++ [.disposal] = if left.disposed then [.disposal] else []
    rw [d.engine, h.record, lives, d.disposed]
    rfl

/-- A task is done: handlers are told, others subscribe, or the bridge is torn down; and no
subscription is removed by what it leads to. -/
theorem work (m : Engine state pending) (h : Accounted connects others handed torn bridge)
    {task : Task} (spares : task.Spares) :
    Accounted connects (others ++ task.joins bridge) handed
        (torn ++ task.tears (.recording m) bridge)
        (Bridge.work (.recording m) task bridge).1 ∧
      ∀ more ∈ (Bridge.work (.recording m) task bridge).2, more.Spares := by
  have none : ∀ more ∈ ([] : List Task), more.Spares := fun _ member =>
    absurd member List.not_mem_nil
  cases task with
  | deliver handler event =>
    simp only [Task.joins, Task.tears, List.append_nil]
    cases handler with
    | forward gate => exact ⟨h.notified (.forward bridge gate event), none⟩
    | react acts =>
      refine ⟨h, fun more member => ?_⟩
      obtain ⟨act, reacts, rfl⟩ := List.mem_map.mp member
      exact spares act reacts
  | perform act =>
    cases spares with
    | emit event =>
      simp only [Task.joins, Task.tears, List.append_nil]
      refine ⟨h, fun more member => ?_⟩
      obtain ⟨handler, listens, rfl⟩ := List.mem_map.mp member
      obtain ⟨subscription, held, rfl⟩ := List.mem_map.mp listens
      exact h.rostered.spares subscription (List.mem_filter.mp held).1
    | subscribe kind reaction spares =>
      simp only [Task.joins, Task.tears, List.append_nil]
      exact ⟨h.renewed (h.rostered.join kind spares), none⟩
    | tearDown =>
      simp only [Task.joins, Task.tears, List.append_nil, runOnce]
      cases late : bridge.disposed with
      | true =>
        have again : Bridge.tearDown (.recording m) bridge =
            (bridge.report [⟨.debug, .disposal, "teardown already performed", []⟩], []) :=
          if_pos late
        simp only [Bridge.work, Bridge.perform, again]
        exact ⟨(h.again late).notified (.report bridge _), none⟩
      | false =>
        refine ⟨h.tearDown m late, fun more member => ?_⟩
        obtain ⟨left, -, torn'⟩ := tearDown_of_live (.recording m) late (h.reach.trans late)
        change more ∈ (Bridge.tearDown (.recording m) bridge).2 at member
        rw [torn'] at member
        rcases List.mem_append.mp member with published | last
        · obtain ⟨event, -, rfl⟩ := List.mem_map.mp published
          exact .emit event
        · rw [List.mem_singleton.mp last]
          exact trivial
  | conclude subscriptions =>
    simp only [Task.joins, Task.tears, List.append_nil]
    exact ⟨h.notified (.report bridge _), none⟩

end Accounted

/-! ## Runs -/

/-- A bridge over its time, with so many connections. -/
structure Tenure.Kept (connects : Nat) (tenure : Tenure state) : Prop where
  /-- What is noted is true of the bridge. -/
  accounted : Accounted connects tenure.others tenure.handed tenure.torn tenure.bridge
  /-- Nobody is about to remove a subscription. -/
  spares : ∀ task ∈ tenure.agenda, task.Spares

namespace Tenure.Kept

variable {connects : Nat} {tenure : Tenure state}

/-- The next task is done. -/
theorem work (m : Engine state pending) (h : tenure.Kept connects) :
    (tenure.work m).Kept connects := by
  obtain ⟨bridge, agenda, others, handed, torn⟩ := tenure
  cases agenda with
  | nil => exact h
  | cons task rest =>
    obtain ⟨first, following⟩ := List.forall_mem_cons.mp h.spares
    obtain ⟨accounted, leads⟩ := h.accounted.work m first
    refine ⟨accounted, fun more member => ?_⟩
    rcases List.mem_append.mp member with now | later
    · exact leads more now
    · exact following more later

/-- Whatever is done next. -/
theorem step (m : Engine state pending) (h : tenure.Kept connects) (deed : Deed) :
    (tenure.step m deed).Kept (connects + deed.isConnect.toNat) := by
  cases deed with
  | work => exact h.work m
  | act act spares => exact ⟨h.accounted, List.forall_mem_cons.mpr ⟨spares, h.spares⟩⟩
  | withdraw id =>
    change (tenure.withdraw id).Kept connects
    unfold withdraw
    split
    · next known => exact ⟨h.accounted.renewed (h.accounted.rostered.withdraw known), h.spares⟩
    · exact h
  | connect => exact ⟨h.accounted.connect, h.spares⟩
  | spawn pid interval now =>
    exact ⟨h.accounted.supervised (h.accounted.charged.spawn pid interval now) rfl rfl rfl rfl rfl
      rfl, h.spares⟩
  | attach number =>
    change (tenure.attach number).Kept connects
    unfold attach
    split
    · next possible => exact ⟨h.accounted.attach possible.1 possible.2, h.spares⟩
    · exact h
  | watch number cancelled now probe =>
    exact ⟨h.accounted.watch number cancelled now probe, h.spares⟩

/-- Whatever is done. -/
theorem run (m : Engine state pending) (h : tenure.Kept connects) (deeds : List Deed) :
    (tenure.run m deeds).Kept (connects + deeds.countP Deed.isConnect) := by
  induction deeds generalizing tenure connects with
  | nil => exact h
  | cons deed rest ih =>
    have counted : connects + deed.isConnect.toNat + rest.countP Deed.isConnect =
        connects + (deed :: rest).countP Deed.isConnect := by
      rw [List.countP_cons]
      cases deed.isConnect <;> simp +arith
    exact counted ▸ ih (h.step m deed)

/-- A new bridge. -/
theorem start (engine : state) : (Tenure.start engine).Kept 0 :=
  ⟨.ofEngine engine, nofun⟩

end Tenure.Kept

/-- Whoever tears a bridge down and whenever: the first is told that it was done, and nobody
else; the engine is disposed of then, and only then, when all gates are closed already and the
hub holds only the subscriptions of others. Until then every connection has recorded seven
subscriptions, which the hub holds; from then on nothing is recorded, no gate is open and the
hub holds no subscription of the bridge. Those of others are never touched. A supervisor that
was handed over is stopped unless it is the last one and the teardown has not begun; and it is
put in charge exactly if the teardown has not begun. Teardowns and emissions that come to their
end are runs of such deeds. -/
theorem disposed_once (m : Engine state pending) (engine : state) (deeds : List Deed) :
    let tenure := (Tenure.start engine).run m deeds
    let bridge := tenure.bridge
    (tenure.torn = [] ∨ ∃ again, tenure.torn = true :: .replicate again false) ∧
    bridge.engine.record = (if tenure.torn = [] then [] else [.disposal]) ∧
    (∀ rest, tenure.torn = [] → tenure.agenda = .perform .tearDown :: rest →
      ∃ left, left.engine = bridge.engine ∧ left.recorded = [] ∧
        (∀ gate, left.gateOpen gate = false) ∧ left.hub.subscriptions = tenure.others ∧
        tenure.work m = ⟨(disposeEngine (.recording m) left).1,
          (disposeEngine (.recording m) left).2 ++ .conclude bridge.recorded.length :: rest,
          tenure.others, tenure.handed, [true]⟩) ∧
    (tenure.torn = [] → bridge.recorded.length = 7 * deeds.countP Deed.isConnect) ∧
    (tenure.torn ≠ [] → bridge.recorded = [] ∧ ∀ gate, bridge.gateOpen gate = false) ∧
    bridge.hub.subscriptions.filter (·.handler.isForward) =
      bridge.recorded.map Record.subscription ∧
    bridge.hub.subscriptions.filter (!·.handler.isForward) = tenure.others ∧
    (∀ number ∈ tenure.handed, ∃ supervisor, bridge.supervisors[number]? = some supervisor ∧
      (supervisor.stopped = false ↔
        tenure.torn = [] ∧ tenure.handed.getLast? = some number)) ∧
    (∀ number, (bridge.attachSupervisor number).1 = true ↔ tenure.torn = []) ∧
    (∀ did after, bridge.runOnce (.recording m) = (did, after, []) →
      (did = true ↔ tenure.torn = []) ∧
      ∃ count, (tenure.run m (.act .tearDown .tearDown :: .replicate count .work)).bridge = after ∧
        (tenure.run m (.act .tearDown .tearDown :: .replicate count .work)).agenda =
          tenure.agenda) ∧
    ∀ event told after, bridge.emit (.recording m) event = (told, after, []) →
      ∃ count, (tenure.run m (.act (.emit event) (.emit event) ::
          .replicate count .work)).bridge = after ∧
        (tenure.run m (.act (.emit event) (.emit event) :: .replicate count .work)).agenda =
          tenure.agenda := by
  intro tenure bridge
  obtain ⟨h, -⟩ : tenure.Kept (0 + deeds.countP Deed.isConnect) :=
    (Tenure.Kept.start engine).run m deeds
  rw [Nat.zero_add] at h
  have begun : bridge.disposed = true ↔ tenure.torn ≠ [] := by
    rcases h.told with ⟨lives, none⟩ | ⟨late, again, some⟩
    · simp [bridge, lives, none]
    · simp [bridge, late, some]
  have lives : bridge.disposed = false ↔ tenure.torn = [] := by
    rw [← Bool.not_eq_true, begun, Decidable.not_not]
  refine ⟨h.told.imp And.right And.right, ?_, fun rest first next => ?_,
    fun first => h.counted (lives.mpr first), fun late => ?_, h.rostered.own, h.rostered.others,
    fun number member => ?_, fun number => ?_, fun did after ends => ⟨?_, ?_⟩,
    fun event told after ends => ?_⟩
  · rw [h.record]
    by_cases first : tenure.torn = []
    · rw [lives.mpr first, if_pos first]
      rfl
    · rw [begun.mpr first, if_neg first, if_pos rfl]
  · obtain ⟨left, d, torn⟩ := tearDown_of_live (.recording m) (lives.mpr first)
      (h.reach.trans (lives.mpr first))
    refine ⟨left, d.engine, d.recorded, fun gate => ?_, h.rostered.subscriptions_dismantled d, ?_⟩
    · refine Bool.eq_false_iff.mpr fun still => ?_
      obtain ⟨before, others⟩ := d.gates gate still
      obtain ⟨record, recorded, same⟩ := h.guarded.recorded gate before
      exact others record recorded same
    · rw [tenure.work_of_agenda m next]
      change (⟨(Bridge.tearDown (.recording m) bridge).1,
        (Bridge.tearDown (.recording m) bridge).2 ++ rest, tenure.others ++ [], tenure.handed,
        tenure.torn ++ [!bridge.disposed]⟩ : Tenure state) = _
      rw [torn, List.append_nil, first, lives.mpr first, List.append_assoc]
      rfl
  · exact ⟨h.guarded.undone (begun.mpr late), h.guarded.gateOpen_eq_false (begun.mpr late)⟩
  · have started := h.charged.known number member
    have found : bridge.supervisors[number]? = some bridge.supervisors[number] :=
      List.getElem?_eq_getElem started
    refine ⟨_, found, ?_⟩
    rw [← Bool.not_eq_true, h.charged.stopped number _ found, ← lives]
    simp [bridge, member]
  · rw [← lives]
    unfold attachSupervisor
    split
    · next late => simp [late]
    · next early => simp [early]
  · have answer : (!bridge.disposed) = did := congrArg Prod.fst ends
    rw [← lives, ← answer, Bool.not_eq_true']
  · obtain ⟨count, hbridge, hagenda⟩ := Tenure.exists_run_of_settle m
      (tenure.step m (.act .tearDown .tearDown)) [.perform .tearDown] tenure.agenda rfl
      (congrArg Prod.snd ends)
    exact ⟨count, hbridge, hagenda⟩
  · obtain ⟨count, hbridge, hagenda⟩ := Tenure.exists_run_of_settle m
      ((tenure.step m (.act (.emit event) (.emit event))).work m)
      (bridge.deliveries event) tenure.agenda rfl (congrArg Prod.snd ends)
    exact ⟨count + 1, hbridge, hagenda⟩

namespace Sample

/-- Somebody else tears the bridge down twice when told of an event, before the bridge is. Two
supervisors are handed over, and the event is published. -/
def tornAmidEmission : List Deed :=
  [.act (.subscribe .telemetry [.tearDown, .tearDown])
      (.subscribe _ _ (by simp [Act.Spares.tearDown])), .work,
    .connect, .spawn 7 10 0, .attach 0, .spawn 8 10 0, .attach 1,
    .act (.emit (event .telemetry)) (.emit _)] ++ .replicate 20 .work

end Sample

/-- The engine publishes the same event while it is disposed of, so that there are four calls;
the first is told that it was done. One subscription is left, and nobody watches. -/
example :
    let tenure := (Tenure.start ()).run Sample.engine Sample.tornAmidEmission
    tenure.torn = [true, false, false, false] ∧ tenure.agenda.length = 0 ∧
      tenure.bridge.engine.record.length = 1 ∧
      tenure.bridge.hub.subscriptions.map Hub.Subscription.id = [0] ∧
      tenure.bridge.supervisors.map Supervisor.stopped = [true, true] := by
  decide +kernel

end LspGateway.Bridge
