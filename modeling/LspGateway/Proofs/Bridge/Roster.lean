import LspGateway.Proofs.Bridge.Tenure
import Mathlib.Data.List.Nodup

/-!
# Whom a bridge deals with

The subscriptions at the hub are those that the bridge has recorded and those of others, told
apart by their numbers; and of the supervisors that were handed over the last one is in charge.
Whatever is done leaves it at that. The teardown takes away what is of the bridge, and leaves
nobody in charge.
-/

namespace LspGateway

/-! ## Numbers of subscriptions -/

/-- No number was given out twice, or beforehand. -/
structure Hub.Numbered {handler : Type} (hub : Hub handler) : Prop where
  /-- Only numbers that were given out are in use. -/
  bounded : ∀ subscription ∈ hub.subscriptions, subscription.id < hub.next
  /-- No two subscriptions have the same number. -/
  distinct : (hub.subscriptions.map Hub.Subscription.id).Nodup

namespace Hub.Numbered

variable {handler : Type} {hub : Hub handler}

/-- A new subscription has a number of its own. -/
theorem subscribe (h : hub.Numbered) (kind : EventKind) (who : handler) :
    (hub.subscribe kind who).2.Numbered := by
  refine ⟨fun subscription member => ?_, ?_⟩
  · rcases List.mem_append.mp member with earlier | now
    · exact Nat.lt_succ_of_lt (h.bounded subscription earlier)
    · rw [List.mem_singleton.mp now]
      exact Nat.lt_succ_self hub.next
  · change ((hub.subscriptions ++ [Subscription.mk hub.next kind who]).map _).Nodup
    rw [List.map_append, List.nodup_append]
    refine ⟨h.distinct, by simp, fun id earlier last now => ?_⟩
    obtain ⟨subscription, member, rfl⟩ := List.mem_map.mp earlier
    rw [List.mem_singleton.mp now]
    exact Nat.ne_of_lt (h.bounded subscription member)

/-- Whatever is removed. -/
theorem filter (h : hub.Numbered) (stays : Subscription handler → Bool) :
    Numbered { hub with subscriptions := hub.subscriptions.filter stays } :=
  ⟨fun subscription member => h.bounded subscription (List.mem_filter.mp member).1,
    h.distinct.sublist (List.filter_sublist.map _)⟩

/-- A number tells which subscription is meant. -/
theorem eq_of_id (h : hub.Numbered) {first second : Subscription handler}
    (hfirst : first ∈ hub.subscriptions) (hsecond : second ∈ hub.subscriptions)
    (same : first.id = second.id) : first = second :=
  List.inj_on_of_nodup_map h.distinct hfirst hsecond same

end Hub.Numbered

namespace Bridge

variable {state pending : Type} {bridge left : Bridge state}
  {others : List (Hub.Subscription Handler)}

/-! ## Subscriptions -/

/-- The hub holds what the bridge has recorded and what others have subscribed, and nobody
removes what is not their own. -/
structure Rostered (others : List (Hub.Subscription Handler)) (bridge : Bridge state) : Prop where
  /-- Subscriptions have numbers of their own. -/
  numbered : bridge.hub.Numbered
  /-- The subscriptions of the bridge are those that it has recorded. -/
  own : bridge.hub.subscriptions.filter (·.handler.isForward) =
    bridge.recorded.map Record.subscription
  /-- The rest is of others. -/
  others : bridge.hub.subscriptions.filter (!·.handler.isForward) = others
  /-- Nobody removes a subscription. -/
  spares : ∀ subscription ∈ bridge.hub.subscriptions, subscription.handler.Spares

namespace Rostered

/-- Nobody has subscribed to a new bridge. -/
theorem ofEngine (engine : state) : Rostered [] (Bridge.ofEngine engine) :=
  ⟨⟨nofun, .nil⟩, rfl, rfl, nofun⟩

/-- The hub and the records are all that matters. -/
theorem congr (h : Rostered others bridge) (hub : left.hub = bridge.hub)
    (recorded : left.recorded = bridge.recorded) : Rostered others left :=
  ⟨hub ▸ h.numbered, by rw [hub, recorded]; exact h.own, hub ▸ h.others, hub ▸ h.spares⟩

/-- The bridge subscribes to a further kind, before the teardown. -/
theorem enlist (h : Rostered others bridge) (lives : bridge.disposed = false) (kind : EventKind) :
    Rostered others (bridge.enlist kind) := by
  rw [enlist_of_live lives]
  refine ⟨h.numbered.subscribe kind _, ?_, ?_, fun subscription member => ?_⟩
  · change (bridge.hub.subscriptions ++ [_]).filter _ = (bridge.recorded ++ [_]).map _
    rw [List.filter_append, h.own, List.map_append]
    rfl
  · change (bridge.hub.subscriptions ++ [_]).filter _ = _
    rw [List.filter_append, h.others]
    exact List.append_nil _
  · rcases List.mem_append.mp member with earlier | now
    · exact h.spares subscription earlier
    · rw [List.mem_singleton.mp now]
      exact trivial

/-- The bridge subscribes to several kinds, one after the other; nothing else changes but gates
and the journal. -/
theorem foldl_enlist (h : Rostered others bridge) (lives : bridge.disposed = false)
    (kinds : List EventKind) :
    let connected := kinds.foldl Bridge.enlist bridge
    Rostered others connected ∧
      connected.recorded.length = bridge.recorded.length + kinds.length ∧
      connected.engine = bridge.engine ∧ connected.disposed = bridge.disposed ∧
      connected.released = bridge.released ∧ connected.supervisors = bridge.supervisors ∧
      connected.attached = bridge.attached := by
  induction kinds generalizing bridge with
  | nil => exact ⟨h, rfl, rfl, rfl, rfl, rfl, rfl⟩
  | cons kind rest ih =>
    have first := enlist_of_live lives kind
    have still : (bridge.enlist kind).disposed = false := by
      rw [first]
      exact lives
    obtain ⟨rostered, recorded, engine, disposed, released, supervisors, attached⟩ :=
      ih (h.enlist lives kind) still
    simp only [List.foldl_cons]
    rw [first] at rostered recorded engine disposed released supervisors attached ⊢
    refine ⟨rostered, recorded.trans ?_, engine, disposed, released, supervisors, attached⟩
    simp only [List.length_append, List.length_cons, List.length_nil]
    omega

/-- Somebody else subscribes. -/
theorem join (h : Rostered others bridge) (kind : EventKind) {acts : List Act}
    (spares : ∀ act ∈ acts, act.Spares) :
    Rostered (others ++ [⟨(bridge.hub.subscribe kind (.react acts)).1, kind, .react acts⟩])
      { bridge with hub := (bridge.hub.subscribe kind (.react acts)).2 } := by
  refine ⟨h.numbered.subscribe kind _, ?_, ?_, fun subscription member => ?_⟩
  · change (bridge.hub.subscriptions ++ [_]).filter _ = _
    rw [List.filter_append, h.own]
    exact List.append_nil _
  · change (bridge.hub.subscriptions ++ [_]).filter _ = _
    rw [List.filter_append, h.others]
    rfl
  · rcases List.mem_append.mp member with earlier | now
    · exact h.spares subscription earlier
    · rw [List.mem_singleton.mp now]
      exact spares

/-- Who subscribed otherwise has a subscription at the hub that is not of the bridge. -/
theorem mem_others (h : Rostered others bridge) {subscription : Hub.Subscription Handler} :
    subscription ∈ others ↔
      subscription ∈ bridge.hub.subscriptions ∧ subscription.handler.isForward = false := by
  rw [← h.others, List.mem_filter, Bool.not_eq_true']

/-- A subscription of the bridge is recorded. -/
theorem mem_own (h : Rostered others bridge) {subscription : Hub.Subscription Handler} :
    (∃ record ∈ bridge.recorded, record.subscription = subscription) ↔
      subscription ∈ bridge.hub.subscriptions ∧ subscription.handler.isForward = true := by
  rw [← List.mem_map, ← h.own, List.mem_filter]

/-- Somebody else takes a subscription back. -/
theorem withdraw (h : Rostered others bridge) {id : Nat}
    (known : others.any (·.id == id) = true) :
    Rostered (others.filter (·.id != id))
      { bridge with hub := (bridge.hub.unsubscribe id).2 } := by
  obtain ⟨theirs, member, rfl⟩ : ∃ theirs ∈ others, theirs.id = id := by
    simpa using known
  obtain ⟨held, foreign⟩ := h.mem_others.mp member
  refine ⟨h.numbered.filter _, ?_, ?_, fun subscription member => ?_⟩
  · change (bridge.hub.subscriptions.filter (·.id != theirs.id)).filter _ = _
    rw [List.filter_filter, ← h.own]
    refine List.filter_congr fun ours member => ?_
    cases forward : ours.handler.isForward with
    | false => rfl
    | true =>
      refine bne_iff_ne.mpr fun same => ?_
      rw [h.numbered.eq_of_id member held same] at forward
      exact absurd (foreign.symm.trans forward) Bool.false_ne_true
  · change (bridge.hub.subscriptions.filter (·.id != theirs.id)).filter _ = _
    rw [← h.others, List.filter_filter, List.filter_filter]
    exact List.filter_congr fun _ _ => Bool.and_comm _ _
  · exact h.spares subscription (List.mem_filter.mp member).1

/-- By the teardown everything goes that is of the bridge, and nothing else. -/
theorem subscriptions_dismantled (h : Rostered others bridge) (d : bridge.Dismantled left) :
    left.hub.subscriptions = others := by
  rw [d.hub, ← h.others]
  refine List.filter_congr fun subscription member => ?_
  rw [Bool.eq_iff_iff, List.all_eq_true, Bool.not_eq_true']
  constructor
  · intro unrecorded
    refine Bool.eq_false_iff.mpr fun forward => ?_
    obtain ⟨record, recorded, rfl⟩ := h.mem_own.mpr ⟨member, forward⟩
    exact bne_iff_ne.mp (unrecorded record recorded) rfl
  · intro foreign record recorded
    refine bne_iff_ne.mpr fun same => ?_
    obtain ⟨ours, forward⟩ := h.mem_own.mp ⟨record, recorded, rfl⟩
    rw [h.numbered.eq_of_id ours member same] at forward
    exact absurd (foreign.symm.trans forward) Bool.false_ne_true

/-- What is left after the teardown. -/
theorem dismantled (h : Rostered others bridge) (d : bridge.Dismantled left) :
    Rostered others left := by
  have left' := h.subscriptions_dismantled d
  refine ⟨d.hub ▸ h.numbered.filter _, ?_, ?_, fun subscription member => ?_⟩
  · rw [left', d.recorded, ← h.others, List.filter_filter]
    exact List.filter_eq_nil_iff.mpr fun _ _ => by simp
  · rw [left', ← h.others, List.filter_filter]
    exact List.filter_congr fun _ _ => by simp
  · exact h.spares subscription (h.mem_others.mp (left' ▸ member)).1

end Rostered

/-! ## Supervisors -/

/-- Of the supervisors handed over the last one is in charge, and all others were stopped; after
the teardown nobody is in charge, and all were stopped. -/
structure Charged (handed : List Nat) (bridge : Bridge state) : Prop where
  /-- Only supervisors that were started were handed over. -/
  known : ∀ number ∈ handed, number < bridge.supervisors.length
  /-- Nobody was handed over twice. -/
  once : handed.Nodup
  /-- Who is in charge. -/
  attached : bridge.attached = if bridge.disposed then none else handed.getLast?
  /-- Who was stopped. -/
  stopped : ∀ number supervisor, bridge.supervisors[number]? = some supervisor →
    (supervisor.stopped = true ↔
      number ∈ handed ∧ (bridge.disposed = true ∨ handed.getLast? ≠ some number))

/-- Who is stopped after somebody was told to stop. -/
theorem stopped_modify {supervisors : List Supervisor} {told number : Nat} {after : Supervisor}
    (found : (supervisors.modify told Supervisor.stop)[number]? = some after) :
    ∃ before, supervisors[number]? = some before ∧
      (after.stopped = true ↔ before.stopped = true ∨ told = number) := by
  rw [List.getElem?_modify, Option.map_eq_map, Option.map_eq_some_iff] at found
  obtain ⟨before, here, rfl⟩ := found
  refine ⟨before, here, ?_⟩
  split
  · next same => simp [Supervisor.stop, same]
  · next other => simp [other]

/-- Who is stopped after whoever is in charge was told to stop. -/
theorem stopped_stopAttached {number : Nat} {after : Supervisor}
    (found : bridge.stopAttached.supervisors[number]? = some after) :
    ∃ before, bridge.supervisors[number]? = some before ∧
      (after.stopped = true ↔ before.stopped = true ∨ bridge.attached = some number) := by
  unfold stopAttached at found
  split at found
  · next told charge =>
    obtain ⟨before, here, same⟩ := stopped_modify found
    exact ⟨before, here, by simpa [charge] using same⟩
  · next free => exact ⟨after, found, by simp [free]⟩

/-- Nobody is forgotten when whoever is in charge is told to stop. -/
theorem length_stopAttached (bridge : Bridge state) :
    bridge.stopAttached.supervisors.length = bridge.supervisors.length := by
  have same := congrArg List.length bridge.map_pid_stopAttached
  simpa using same

/-- Putting a supervisor in charge is a matter of supervisors alone. -/
theorem exists_attachSupervisor (bridge : Bridge state) (number : Nat) :
    ∃ supervisors attached, (bridge.attachSupervisor number).2 =
      { bridge with supervisors := supervisors, attached := attached } := by
  unfold attachSupervisor stopAttached
  split
  · exact ⟨_, _, rfl⟩
  · split <;> exact ⟨_, _, rfl⟩

/-- A turn of a supervisor is a matter of supervisors and of the journal alone. -/
theorem exists_turnSupervisor (bridge : Bridge state) (number : Nat) (cancelled : Bool)
    (now : Nat) (probe : Nat → Except Supervisor.ProbeError Bool) :
    ∃ supervisors journal, (bridge.turnSupervisor number cancelled now probe).2 =
      { bridge with supervisors := supervisors, journal := journal } := by
  unfold turnSupervisor
  split <;> exact ⟨_, _, rfl⟩

/-- Telling somebody to stop is not the teardown. -/
theorem disposed_stopAttached (bridge : Bridge state) :
    bridge.stopAttached.disposed = bridge.disposed := by
  unfold stopAttached
  split <;> rfl

namespace Charged

variable {handed : List Nat}

/-- A new bridge has no supervisors. -/
theorem ofEngine (engine : state) : Charged [] (Bridge.ofEngine engine) :=
  ⟨nofun, .nil, rfl, fun _ _ found => absurd found (by simp [Bridge.ofEngine])⟩

/-- Supervisors, who is in charge and whether the teardown has begun are all that matters. -/
theorem congr (h : Charged handed bridge) (supervisors : left.supervisors = bridge.supervisors)
    (attached : left.attached = bridge.attached) (disposed : left.disposed = bridge.disposed) :
    Charged handed left :=
  ⟨by rw [supervisors]; exact h.known, h.once, by rw [attached, disposed]; exact h.attached,
    by rw [supervisors, disposed]; exact h.stopped⟩

/-- A supervisor is started. -/
theorem spawn (h : Charged handed bridge) (pid interval now : Nat) :
    Charged handed (bridge.spawnSupervisor pid interval now).2 := by
  refine ⟨fun number member => ?_, h.once, h.attached, fun number supervisor found => ?_⟩
  · change number < (bridge.supervisors ++ [_]).length
    rw [List.length_append]
    exact Nat.lt_add_right _ (h.known number member)
  · change (bridge.supervisors ++ [_])[number]? = some supervisor at found
    rcases Nat.lt_trichotomy number bridge.supervisors.length with earlier | rfl | later
    · rw [List.getElem?_append_left earlier] at found
      exact h.stopped number supervisor found
    · rw [List.getElem?_concat_length] at found
      obtain rfl := Option.some.inj found
      have unknown : bridge.supervisors.length ∉ handed := fun member =>
        Nat.lt_irrefl _ (h.known _ member)
      simp [Supervisor.start, unknown]
    · have bound := (List.getElem?_eq_some_iff.mp found).1
      simp at bound
      omega

/-- A supervisor has a turn. -/
theorem watch (h : Charged handed bridge) (number : Nat) (cancelled : Bool) (now : Nat)
    (probe : Nat → Except Supervisor.ProbeError Bool) :
    Charged handed (bridge.turnSupervisor number cancelled now probe).2 := by
  unfold turnSupervisor
  split
  · exact h
  · next supervisor found =>
    refine ⟨fun other member => ?_, h.once, h.attached, fun other after here => ?_⟩
    · change other < (bridge.supervisors.set number _).length
      rw [List.length_set]
      exact h.known other member
    · change (bridge.supervisors.set number _)[other]? = some after at here
      rw [List.getElem?_set] at here
      split at here
      · next same =>
        subst same
        split at here
        · obtain rfl := Option.some.inj here
          rw [(supervisor.turn_next cancelled now (probe supervisor.pid)).1]
          exact h.stopped number supervisor found
        · cases here
      · exact h.stopped other after here

/-- As long as the bridge lives, all that were handed over are stopped once whoever is in charge
is. -/
theorem stopped_or_attached (h : Charged handed bridge) (lives : bridge.disposed = false)
    {number : Nat} {supervisor : Supervisor}
    (found : bridge.supervisors[number]? = some supervisor) :
    supervisor.stopped = true ∨ bridge.attached = some number ↔ number ∈ handed := by
  have charge : bridge.attached = handed.getLast? := by
    rw [h.attached, lives]
    rfl
  rw [h.stopped number supervisor found, charge, lives]
  constructor
  · rintro (⟨member, -⟩ | last)
    · exact member
    · exact List.mem_of_getLast? last
  · intro member
    by_cases last : handed.getLast? = some number
    · exact .inr last
    · exact .inl ⟨member, .inr last⟩

/-- A supervisor is handed over. -/
theorem attach (h : Charged handed bridge) {number : Nat}
    (started : number < bridge.supervisors.length) (fresh : number ∉ handed) :
    Charged (handed ++ [number]) (bridge.attachSupervisor number).2 := by
  have once : (handed ++ [number]).Nodup := by
    rw [List.nodup_append]
    refine ⟨h.once, by simp, fun other earlier last now => ?_⟩
    rw [List.mem_singleton.mp now]
    exact fun same => fresh (same ▸ earlier)
  have known : ∀ other ∈ handed ++ [number], other < bridge.supervisors.length := by
    intro other member
    rcases List.mem_append.mp member with earlier | now
    · exact h.known other earlier
    · exact List.mem_singleton.mp now ▸ started
  unfold attachSupervisor
  split
  · next torn =>
    refine ⟨fun other member => ?_, once, ?_, fun other after found => ?_⟩
    · change other < (bridge.supervisors.modify number Supervisor.stop).length
      rw [List.length_modify]
      exact known other member
    · change bridge.attached = if bridge.disposed then none else _
      rw [h.attached, if_pos torn, if_pos torn]
    · obtain ⟨before, here, same⟩ := stopped_modify found
      change after.stopped = true ↔ other ∈ handed ++ [number] ∧ (bridge.disposed = true ∨ _)
      rw [same, h.stopped other before here]
      simp [torn, eq_comm]
  · next lives =>
    have lives : bridge.disposed = false := Bool.eq_false_iff.mpr lives
    refine ⟨fun other member => ?_, once, ?_, fun other after found => ?_⟩
    · change other < bridge.stopAttached.supervisors.length
      rw [length_stopAttached]
      exact known other member
    · change some number = if bridge.stopAttached.disposed then none else _
      rw [disposed_stopAttached, lives, List.getLast?_concat]
      rfl
    · obtain ⟨before, here, same⟩ := stopped_stopAttached found
      change after.stopped = true ↔ other ∈ handed ++ [number] ∧
        (bridge.stopAttached.disposed = true ∨ _)
      rw [same, h.stopped_or_attached lives here, disposed_stopAttached, lives,
        List.getLast?_concat, List.mem_append, List.mem_singleton]
      constructor
      · intro member
        exact ⟨.inl member, .inr fun now => fresh (Option.some.inj now ▸ member)⟩
      · rintro ⟨member | rfl, torn | other⟩
        · cases torn
        · exact member
        · cases torn
        · exact absurd rfl other

/-- After the teardown. -/
theorem dismantled (h : Charged handed bridge) (d : bridge.Dismantled left)
    (lives : bridge.disposed = false) : Charged handed left := by
  refine ⟨fun number member => ?_, h.once, ?_, fun number after found => ?_⟩
  · rw [d.supervisors, length_stopAttached]
    exact h.known number member
  · rw [d.attached, d.disposed, if_pos rfl]
  · rw [d.supervisors] at found
    obtain ⟨before, here, same⟩ := stopped_stopAttached found
    rw [same, h.stopped_or_attached lives here, d.disposed]
    exact ⟨fun member => ⟨member, .inl rfl⟩, And.left⟩

end Charged

end Bridge

end LspGateway
