import LspGateway.Engine.Bare
import LspGateway.Proofs.Registry.Standing
import LspGateway.Proofs.Session.Accounting
import LspGateway.Proofs.Session.Steps

/-!
# The registry and the tasks of a session

The registry of a session holds the identifiers of its tasks, one of each. A request is
registered when it becomes a task, and it leaves the registry with its task, in the act in
which it is answered. From then on its identifier is free for another request, and nothing
that is said under the identifier reaches the one that was answered.
-/

namespace LspGateway

namespace Session

variable {state pending : Type} {m : Engine state pending} {session : Session state pending}

/-! ## What a step does to the registry -/

/-- What becomes of a registry in one step. -/
inductive Moves (before : Registry) : Registry → Prop where
  /-- It stays. -/
  | stays : Moves before before
  /-- A request is registered. -/
  | registered (id : RequestId) (free : before.live? id = none) : Moves before (before.registered id)
  /-- A request is cancelled. -/
  | cancelled (id : RequestId) : Moves before (before.cancel id).2
  /-- A request has its answer. -/
  | ended (id : RequestId) (number : Nat) : Moves before (before.ended id number)
  /-- Everything is cancelled. -/
  | all : Moves before before.cancelSession

/-- Every step moves the registry in one of these ways. -/
theorem Step.moves {after : Session state pending} (step : Step m session after) :
    Moves session.registry after.registry := by
  cases step with
  | told alike =>
    rw [alike.registry]
    exact .stays
  | cancelled id => exact .cancelled id
  | enlisted id feature params phase free => exact .registered id free
  | retired task member => exact .ended task.id task.handle
  | ended coherent ending =>
    cases lives : session.hasEnded with
    | true =>
      rw [terminate_of_exited m session ending (by simpa [hasEnded] using lives)]
      exact .stays
    | false =>
      rw [(coherent.terminated m lives ending).registry]
      exact .all
  | _ => exact .stays

/-- Registries find handles under their identifiers whatever the step. -/
theorem Moves.filed {before after : Registry} (moves : Moves before after) (filed : before.Filed) :
    after.Filed := by
  cases moves with
  | stays => exact filed
  | registered id free => exact filed.registered id
  | cancelled id => exact filed.cancel id
  | ended id number => exact (filed.complete id).modify number fun _ => rfl
  | all => exact filed.cancelSession

/-- A handle that nobody holds is left alone whatever the step. -/
theorem Moves.rests {before after : Registry} (moves : Moves before after) : before.Rests after := by
  cases moves with
  | stays => exact .refl before
  | registered id free => exact .registered before id
  | cancelled id => exact .cancel before id
  | ended id number => exact .ended before id number
  | all => exact .cancelSession before

/-- The registry of a session finds handles under their identifiers. -/
theorem Coherent.filed_perform (h : session.Coherent) (act : Act state)
    (filed : session.registry.Filed) : (session.perform m act).registry.Filed := by
  have steps : Steps m session (session.perform m act) := h.steps_perform act
  generalize session.perform m act = after at steps ⊢
  induction steps with
  | refl => exact filed
  | tail _ last ih => exact last.moves.filed ih

/-- A handle that nobody holds is left alone by every act. -/
theorem Coherent.rests_perform (h : session.Coherent) (act : Act state) :
    session.registry.Rests (session.perform m act).registry := by
  have steps : Steps m session (session.perform m act) := h.steps_perform act
  generalize session.perform m act = after at steps ⊢
  induction steps with
  | refl => exact .refl session.registry
  | tail _ last ih => exact ih.trans last.moves.rests

/-! ## Cancellations that are received -/

/-- The request that is to be cancelled. -/
def cancelTarget? (params : Json) : Option RequestId :=
  match (Protocol.cancelParams RequestId.shape).canonical params with
  | .error _ => none
  | .ok record => (RequestId.ofJson ((record.get? "id").getD .null)).toOption

/-- The cancellation of a request moves the registry, and nothing else of the tasks. -/
theorem cancel_spec {params : Json} {id : RequestId} (target : cancelTarget? params = some id) :
    (session.cancel params).registry = (session.registry.cancel id).2 ∧
      (session.cancel params).tasks = session.tasks := by
  cases canonical : (Protocol.cancelParams RequestId.shape).canonical params with
  | error mismatch => exact absurd target (by simp [cancelTarget?, canonical])
  | ok record =>
    cases named : RequestId.ofJson ((record.get? "id").getD .null) with
    | error mismatch =>
      exact absurd target (by simp [cancelTarget?, canonical, named, Except.toOption])
    | ok found =>
      have same : found = id := by
        simpa [cancelTarget?, canonical, named, Except.toOption] using target
      unfold cancel
      simp only [canonical, named, same]
      exact ⟨rfl, rfl⟩

/-- A cancellation that is received is carried out. -/
theorem perform_cancel (world : World) {payload : Bytes} {params : Json} {id : RequestId}
    (reads : session.reads = true)
    (decoded : Incoming.decode payload = .ok (.notification "$/cancelRequest" params))
    (target : cancelTarget? params = some id) :
    (session.perform m (.receive world payload)).registry = (session.registry.cancel id).2 ∧
      (session.perform m (.receive world payload)).tasks = session.tasks := by
  have route : MethodTable.standard.route? "$/cancelRequest" = some (.control .cancel) := by
    decide +kernel
  have handled : session.perform m (.receive world payload) = session.cancel params := by
    simp [perform, reads, handleFrame, decoded, handleNotification, route]
  rw [handled]
  exact cancel_spec target

/-! ## What an act does to the tasks -/

/-- A task goes, and its request is answered, unless the session has ended. -/
def Leaves (session : Session state pending) (task : Task pending) (answer : Answer)
    (after : Session state pending) : Prop :=
  ∃ engine told, ((session.withEngine engine).retire task).Alike told ∧
    after = told.send (.response (some task.id) answer)

/-- What becomes of the tasks in one act. -/
inductive Passage (session : Session state pending) : Act state → Session state pending → Prop where
  /-- They stay. -/
  | same {act : Act state} {after : Session state pending} (tasks : after.tasks = session.tasks)
      (idle : ∀ ticket, act = .work ticket → after = session) : Passage session act after
  /-- A request that was received becomes a task. -/
  | came {after : Session state pending} (world : World) (payload : Bytes) (id : RequestId)
      (feature : Engine.Feature) (params : Json)
      (decoded : Incoming.decode payload = .ok (.request id feature.method params))
      (free : session.registry.live? id = none)
      (tasks : after.tasks = (session.enlist id feature params).tasks) :
      Passage session (.receive world payload) after
  /-- A task goes on waiting for the engine. -/
  | waits {after : Session state pending} (task : Task pending) (member : task ∈ session.tasks)
      (call : pending) (tasks : after.tasks = (session.park task call).tasks)
      (silent : after.answered = session.answered) : Passage session (.work task.ticket) after
  /-- A task is answered and goes. -/
  | left {after : Session state pending} (task : Task pending) (member : task ∈ session.tasks)
      (answer : Answer) (leaves : session.Leaves task answer after) :
      Passage session (.work task.ticket) after

/-- A message leaves the tasks or becomes one. -/
theorem Upshot.passage {world : World} {payload : Bytes} {after : Session state pending}
    (hu : Upshot m session payload after) (h : session.Coherent)
    (lives : session.hasEnded = false) (idle : session.turn = none) :
    session.Passage (.receive world payload) after := by
  cases hu with
  | ignored due alike => exact .same alike.tasks nofun
  | cancelled id due alike => exact .same alike.tasks nofun
  | answered id answer due alike => exact .same alike.tasks nofun
  | enlisted id feature params decoded phase free due alike =>
    exact .came world payload id feature params decoded free alike.tasks
  | @asked told duty next call due starts operation alike =>
    have begun := (h.begun lives idle starts alike).1
    exact .same ((begun.asked duty call).tasks.1.trans alike.tasks) nofun

/-- The tasks after a turn of one. -/
theorem Worked.passage {ticket : Nat} {after : Session state pending}
    (hw : Worked m session ticket after) : session.Passage (.work ticket) after := by
  cases hw with
  | absent missing => exact .same rfl fun _ _ => rfl
  | refused task answer found consulted alike =>
    obtain ⟨member, rfl⟩ := Coherent.mem_of_task? found
    exact .left task member answer ⟨session.bridge.engine, _, alike, rfl⟩
  | parked task turn call found consulted progress alike =>
    obtain ⟨member, rfl⟩ := Coherent.mem_of_task? found
    exact .waits task member call alike.tasks alike.answered
  | answered task turn outcome answer found consulted progress alike =>
    obtain ⟨member, rfl⟩ := Coherent.mem_of_task? found
    exact .left task member answer ⟨turn.1, _, alike, rfl⟩

/-- Every act does one of these things to the tasks. -/
theorem Coherent.passage (h : session.Coherent) (act : Act state) :
    session.Passage act (session.perform m act) := by
  have performed : Performed m session act (session.perform m act) := perform_performed h act
  generalize session.perform m act = after at performed ⊢
  cases performed with
  | quiet unread kept other alike =>
    exact .same alike.tasks fun ticket same => absurd same (other ticket)
  | handled world payload lives idle hu => exact hu.passage h lives idle
  | resumed turn lives waits hc => exact .same hc.tasks.1 nofun
  | worked ticket hw => exact hw.passage
  | stirred change => exact .same rfl nofun
  | taken => exact .same rfl nofun
  | dropped closed => exact .same rfl nofun
  | @ended act told ending turn unread kept other cut alike =>
    refine .same ?_ fun ticket same => absurd same (other ticket)
    rw [(tasks_terminate m told ending).1, alike.tasks]
    rfl

/-! ## Tasks and entries -/

namespace Coherent

/-- The identifiers that the registry holds are those of the tasks. -/
theorem listed (h : session.Coherent) (filed : session.registry.Filed) :
    (session.registry.liveEntries.map Prod.fst).Perm (session.tasks.map Task.id) := by
  refine (List.perm_ext_iff_of_nodup filed.distinct_liveEntries h.agreement.ids).mpr fun id => ?_
  rw [filed.mem_liveEntries_iff, Option.isSome_iff_exists, List.mem_map]
  constructor
  · rintro ⟨number, live⟩
    obtain ⟨task, member, named, -⟩ := (h.agreement.live id number).mp live
    exact ⟨task, member, named⟩
  · rintro ⟨task, member, rfl⟩
    exact ⟨task.handle, h.agreement.live_of_mem member⟩

/-- Tasks are told apart by their handles. -/
theorem eq_of_handle (h : session.Coherent) {first second : Task pending}
    (hf : first ∈ session.tasks) (hs : second ∈ session.tasks)
    (same : first.handle = second.handle) : first = second := by
  obtain ⟨handle, found, id, -⟩ := h.agreement.sound.handle_of_live (h.agreement.live_of_mem hf)
  obtain ⟨handle', found', id', -⟩ := h.agreement.sound.handle_of_live (h.agreement.live_of_mem hs)
  rw [same, found'] at found
  obtain rfl := Option.some.inj found
  exact h.agreement.eq_of_id hf hs (id.symm.trans id')

/-- The cancellation of the request of a task cancels that task and no other. -/
theorem isCancelled_cancel (h : session.Coherent) {task other : Task pending}
    (member : task ∈ session.tasks) (among : other ∈ session.tasks) :
    (session.registry.cancel task.id).2.isCancelled other.handle =
      (session.registry.isCancelled other.handle || other.ticket == task.ticket) := by
  have own : (some task.handle == some other.handle) = (other.ticket == task.ticket) := by
    rw [Bool.eq_iff_iff, beq_iff_eq, beq_iff_eq]
    constructor
    · intro same
      rw [h.eq_of_handle member among (Option.some.inj same)]
    · intro same
      rw [h.agreement.eq_of_ticket among member same]
  rw [Registry.isCancelled_cancel, h.agreement.live_of_mem member, own]

/-- A request for a feature that is received under a free identifier becomes a task. -/
theorem tasks_receive (h : session.Coherent) {world : World} {payload : Bytes} {id : RequestId}
    {feature : Engine.Feature} {params : Json} (reads : session.reads = true)
    (phase : session.lifecycle.phase = .initialized)
    (decoded : Incoming.decode payload = .ok (.request id feature.method params))
    (free : session.registry.live? id = none) :
    (session.perform m (.receive world payload)).tasks = (session.enlist id feature params).tasks := by
  have lives : session.hasEnded = false := (h.reads_eq_true_iff.mp reads).2
  have handled : session.perform m (.receive world payload) = session.spawn id feature params := by
    simp [Session.perform, reads, handleFrame, decoded, handleRequest,
      MethodTable.route?_standard_feature]
  have admitted : session.lifecycle.admitRequest feature.method = .ok () := by
    simp [Lifecycle.admitRequest, phase]
  rw [handled, spawn, admitted]
  dsimp only
  rw [if_neg (by rw [h.held lives]; decide), Registry.register_of_free free]
  rfl

end Coherent

/-! ## Tasks that come and go -/

section Leaving

variable {task : Task pending} {answer : Answer} {after : Session state pending}

/-- A task that has gone has left the registry, and its handle has no holder. -/
theorem Leaves.registry (leaves : session.Leaves task answer after) :
    after.registry = session.registry.ended task.id task.handle := by
  obtain ⟨engine, told, alike, rfl⟩ := leaves
  exact alike.registry

/-- The other tasks stay. -/
theorem Leaves.tasks (leaves : session.Leaves task answer after) :
    after.tasks = session.tasks.filter fun other => other.ticket != task.ticket := by
  obtain ⟨engine, told, alike, rfl⟩ := leaves
  exact alike.tasks

/-- A task that goes does not end the session. -/
theorem Leaves.hasEnded (leaves : session.Leaves task answer after) :
    after.hasEnded = session.hasEnded := by
  obtain ⟨engine, told, alike, rfl⟩ := leaves
  exact alike.hasEnded

/-- The response is queued as long as the session lasts; afterwards it is dropped. -/
theorem Leaves.answered (leaves : session.Leaves task answer after) (h : session.Coherent)
    (member : task ∈ session.tasks) :
    after.answered =
      if session.hasEnded then session.answered else session.answered ++ [some task.id] := by
  obtain ⟨engine, told, alike, rfl⟩ := leaves
  have coherent : told.Coherent := ((h.withEngine engine).retire member).alike alike
  have ended : told.hasEnded = session.hasEnded := alike.hasEnded
  have before : told.answered = session.answered := alike.answered
  cases lives : session.hasEnded with
  | true =>
    have closed := coherent.closed (ended.trans lives)
    have same := queued_send_of_closed closed (.response (some task.id) answer)
    unfold Session.answered at before ⊢
    rw [same, before]
    rfl
  | false =>
    rw [coherent.answered_send (ended.trans lives), before]
    rfl

end Leaving

/-- A task after an act is an earlier one, or that of a request that was received under a free
identifier. -/
theorem Passage.origin {act : Act state} {after : Session state pending}
    (passage : session.Passage act after) {task : Task pending} (member : task ∈ after.tasks)
    (h : session.Coherent) :
    (∃ old ∈ session.tasks, old.ticket = task.ticket ∧ old.id = task.id ∧
      old.handle = task.handle) ∨
    task.ticket = session.nextTicket ∧ task.id ∉ session.tasks.map Task.id ∧
      ∃ world payload params, act = .receive world payload ∧
        Incoming.decode payload = .ok (.request task.id task.feature.method params) := by
  cases passage with
  | same tasks idle => exact .inl ⟨task, tasks ▸ member, rfl, rfl, rfl⟩
  | came world payload id feature params decoded free tasks =>
    rw [tasks] at member
    rcases List.mem_append.mp member with old | new
    · exact .inl ⟨task, old, rfl, rfl, rfl⟩
    · obtain rfl := List.mem_singleton.mp new
      refine .inr ⟨rfl, fun taken => ?_, world, payload, params, rfl, decoded⟩
      obtain ⟨other, among, same⟩ := List.mem_map.mp taken
      exact h.agreement.live_eq_none_iff.mp free other among same
  | waits parked among call tasks silent =>
    rw [tasks] at member
    obtain ⟨old, before, rfl⟩ := List.mem_map.mp member
    split
    · exact .inl ⟨parked, among, rfl, rfl, rfl⟩
    · exact .inl ⟨old, before, rfl, rfl, rfl⟩
  | left gone among answer leaves =>
    rw [leaves.tasks] at member
    exact .inl ⟨task, (List.mem_filter.mp member).1, rfl, rfl, rfl⟩

/-- A task is there after an act as before, and nothing is answered in its turn, or it goes in
its turn. -/
theorem Passage.fate {act : Act state} {after : Session state pending}
    (passage : session.Passage act after) {task : Task pending} (member : task ∈ session.tasks)
    (h : session.Coherent) :
    (∃ same ∈ after.tasks, same.ticket = task.ticket ∧ same.id = task.id ∧
      same.handle = task.handle ∧ (act = .work task.ticket → after.answered = session.answered)) ∨
    act = .work task.ticket ∧ ∃ answer, session.Leaves task answer after := by
  cases passage with
  | same tasks idle =>
    exact .inl ⟨task, tasks ▸ member, rfl, rfl, rfl, fun same => by rw [idle _ same]⟩
  | came world payload id feature params decoded free tasks =>
    exact .inl ⟨task, tasks ▸ List.mem_append_left _ member, rfl, rfl, rfl, nofun⟩
  | waits parked among call tasks silent =>
    have there : _ ∈ (session.park parked call).tasks := List.mem_map_of_mem member
    refine .inl ⟨_, tasks ▸ there, ?_⟩
    split
    · next same =>
      rw [h.agreement.eq_of_ticket member among (by simpa using same)]
      exact ⟨rfl, rfl, rfl, fun _ => silent⟩
    · exact ⟨rfl, rfl, rfl, fun _ => silent⟩
  | left gone among answer leaves =>
    by_cases same : task.ticket = gone.ticket
    · obtain rfl := h.agreement.eq_of_ticket member among same
      exact .inr ⟨rfl, answer, leaves⟩
    · refine .inl ⟨task, ?_, rfl, rfl, rfl, fun own => ?_⟩
      · rw [leaves.tasks]
        exact List.mem_filter.mpr ⟨member, by simpa using same⟩
      · exact absurd (Act.work.inj own).symm same

end Session

namespace Chronicle

variable {state pending : Type} {m : Engine state pending}

/-- What is true of a request once it is answered. -/
structure Settled (m : Engine state pending) (chronicle : Chronicle state pending)
    (task : Session.Task pending) : Prop where
  /-- It is not outstanding. -/
  free : task.id ∉ chronicle.session.registry.liveEntries.map Prod.fst
  /-- A cancellation under its identifier finds nothing, and changes nothing. -/
  unreached : chronicle.session.registry.cancel task.id = (false, chronicle.session.registry)
  /-- Another request under its identifier becomes a task, with another handle. -/
  renewed : ∀ world payload feature params,
    Incoming.decode payload = .ok (.request task.id feature.method params) →
    chronicle.session.reads = true → chronicle.session.lifecycle.phase = .initialized →
    ∃ new ∈ (chronicle.session.perform m (.receive world payload)).tasks,
      new.id = task.id ∧ new.ticket = chronicle.session.nextTicket ∧ new.feature = feature ∧
        new.handle ≠ task.handle
  /-- Whatever happens, its own handle is left alone, as long as the session lasts. -/
  spared : ∀ more, (chronicle.run m more).session.hasEnded = false →
    (chronicle.run m more).session.registry.isCancelled task.handle =
      chronicle.session.registry.isCancelled task.handle

/-- The registry and the tasks agree, and what the next act makes of them. -/
structure Registered (m : Engine state pending) (chronicle : Chronicle state pending) : Prop where
  /-- The identifiers outstanding in the registry are those of the tasks. -/
  listed : (chronicle.session.registry.liveEntries.map Prod.fst).Perm
    (chronicle.session.tasks.map Session.Task.id)
  /-- The registry counts the tasks. -/
  counted : chronicle.session.registry.outstanding.1 = chronicle.session.tasks.length
  /-- No two tasks have one identifier. -/
  distinct : (chronicle.session.tasks.map Session.Task.id).Nodup
  /-- A cancellation under the identifier of a task finds it. -/
  found : ∀ task ∈ chronicle.session.tasks,
    (chronicle.session.registry.cancel task.id).1 = true
  /-- A cancellation that is received reaches its task and no other. -/
  reached : ∀ task ∈ chronicle.session.tasks, ∀ world payload params,
    chronicle.session.reads = true →
    Incoming.decode payload = .ok (.notification "$/cancelRequest" params) →
    Session.cancelTarget? params = some task.id →
    ∀ other ∈ chronicle.session.tasks,
      (chronicle.session.perform m (.receive world payload)).cancelledTask other =
        (chronicle.session.cancelledTask other || other.ticket == task.ticket)
  /-- A task is an earlier one, or that of a request that was received under an identifier that
  was not outstanding. -/
  came : ∀ act, ∀ task ∈ (chronicle.session.perform m act).tasks,
    (∃ old ∈ chronicle.session.tasks, old.ticket = task.ticket ∧ old.id = task.id ∧
      old.handle = task.handle) ∨
    task.ticket = chronicle.session.nextTicket ∧
      task.id ∉ chronicle.session.tasks.map Session.Task.id ∧
      ∃ world payload params, act = .receive world payload ∧
        Incoming.decode payload = .ok (.request task.id task.feature.method params)
  /-- A task stays until it is answered, in a turn of its own: then the response is queued, or
  dropped if the session has ended, and the request is settled. -/
  left : ∀ act, ∀ task ∈ chronicle.session.tasks,
    (∃ same ∈ (chronicle.session.perform m act).tasks, same.ticket = task.ticket ∧
      same.id = task.id ∧ same.handle = task.handle ∧
      (act = .work task.ticket →
        (chronicle.session.perform m act).answered = chronicle.session.answered)) ∨
    act = .work task.ticket ∧
      (∀ other ∈ (chronicle.session.perform m act).tasks, other.ticket ≠ task.ticket) ∧
      (chronicle.session.perform m act).answered =
        (if chronicle.session.hasEnded then chronicle.session.answered
        else chronicle.session.answered ++ [some task.id]) ∧
      Settled m (chronicle.perform m act) task

section Runs

variable {chronicle : Chronicle state pending}

/-- A handle that nobody holds is left alone by every run. -/
theorem rests_run (coherent : chronicle.session.Coherent) (acts : List (Session.Act state)) :
    chronicle.session.registry.Rests (chronicle.run m acts).session.registry :=
  run_induction (fun c => chronicle.session.registry.Rests c.session.registry)
    (fun _ act hc rests => rests.trans (hc.rests_perform act)) coherent (.refl _) acts

/-- In every run the registry finds handles under their identifiers. -/
theorem filed_run (m : Engine state pending) (engine : state) (config : SessionConfig)
    (acts : List (Session.Act state)) :
    ((start engine config).run m acts).session.registry.Filed :=
  run_induction (fun c => c.session.registry.Filed) (fun _ act hc filed => hc.filed_perform act filed)
    (.create engine config) .empty acts

/-- A request is settled by the act in which its task goes. -/
theorem settled_of_leaves (coherent : chronicle.session.Coherent)
    (filed : chronicle.session.registry.Filed) {act : Session.Act state} {task : Session.Task pending}
    (member : task ∈ chronicle.session.tasks) {answer : Answer}
    (leaves : chronicle.session.Leaves task answer (chronicle.perform m act).session) :
    Settled m (chronicle.perform m act) task := by
  have live := coherent.agreement.live_of_mem member
  have sound := coherent.agreement.sound
  have later : (chronicle.perform m act).session.Coherent := coherent.perform act
  have free : (chronicle.perform m act).session.registry.live? task.id = none := by
    rw [leaves.registry, Registry.live?_ended sound live, if_pos rfl]
  have made : task.handle < (chronicle.perform m act).session.registry.handles.length := by
    have before := Registry.lt_length_of_holders (Registry.live?_eq_some_iff.mp live).2
    exact Nat.lt_of_lt_of_le before (coherent.rests_perform act).made
  refine ⟨?_, ?_, ?_, ?_⟩
  · have filedLater : (chronicle.perform m act).session.registry.Filed :=
      coherent.filed_perform act filed
    rw [filedLater.mem_liveEntries_iff, free]
    simp
  · simp [Registry.cancel, free]
  · intro world payload feature params decoded reads phase
    rw [later.tasks_receive reads phase decoded free]
    exact ⟨_, List.mem_append_right _ (List.mem_singleton_self _), rfl, rfl, rfl,
      (Nat.ne_of_lt made).symm⟩
  · intro more lasts
    have unheld : (chronicle.perform m act).session.registry.holders task.handle = 0 := by
      rw [leaves.registry]
      exact sound.holders_ended_self live
    refine (rests_run later more).spared task.handle made unheld ?_
    rw [(coherent_run later more).cancelled, lasts]

/-- In every run the registry and the tasks agree: what is outstanding are the requests whose
tasks have not been answered, and a request that was answered is settled. -/
theorem registered_run (m : Engine state pending) (engine : state) (config : SessionConfig)
    (acts : List (Session.Act state)) : Registered m ((start engine config).run m acts) := by
  have coherent := coherent_run_start m engine config acts
  have filed := filed_run m engine config acts
  generalize (start engine config).run m acts = chronicle at coherent filed
  have listed := coherent.listed filed
  refine
    { listed := listed
      counted := ?_
      distinct := coherent.agreement.ids
      found := fun task member => ?_
      reached := fun task member world payload params reads decoded target other among => ?_
      came := fun act task member => ?_
      left := fun act task member => ?_ }
  · have lengths := listed.length_eq
    rw [List.length_map, List.length_map] at lengths
    rw [Registry.outstanding_eq, lengths]
  · simp [Registry.cancel, coherent.agreement.live_of_mem member]
  · obtain ⟨moved, -⟩ := Session.perform_cancel (m := m) world reads decoded target
    unfold Session.cancelledTask
    rw [moved]
    exact coherent.isCancelled_cancel member among
  · exact (coherent.passage act).origin member coherent
  · refine ((coherent.passage act).fate member coherent).imp id ?_
    rintro ⟨own, answer, leaves⟩
    refine ⟨own, fun other among same => ?_, leaves.answered coherent member,
      settled_of_leaves coherent filed member leaves⟩
    rw [leaves.tasks] at among
    simpa [same] using (List.mem_filter.mp among).2

set_option maxRecDepth 2000 in
/-- A request for the hover text is outstanding until the engine has answered it. -/
example :
    let asked := (start () ⟨2000, 1000⟩).run Engine.bare (Sample.handshake ++ [Sample.hover "1"])
    asked.session.registry.outstanding.1 = 1 ∧
      (asked.run Engine.bare [.work 0]).session.registry.outstanding.1 = 0 := by
  decide +kernel

end Runs

end Chronicle

end LspGateway
