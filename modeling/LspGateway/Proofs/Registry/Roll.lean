import LspGateway.Proofs.Registry.Entries
import LspGateway.Registry.Holders

/-!
# The roll of outstanding requests

What the registry is meant to be: a roll on which every outstanding request stands with its
one handle. It knows no handle that has outlived its request, and it counts nobody: a
handle has as many holders as there are names it is held under, and it leaves the roll with
the last of them, or once its request has its answer. The registry refers to handles that
may be gone, and gives every answer that the roll gives.
-/

namespace LspGateway.Registry

/-- The name under which a command looks for a handle. -/
def Holders.Command.source : Holders.Command → Option String
  | .share other _ => some other
  | .watch other _ => some other
  | .drop name => some name
  | _ => .none

/-- The outstanding requests, and who holds and watches their handles. -/
structure Roll where
  /-- The handle of each outstanding request. -/
  live : List (RequestId × Nat)
  /-- How many handles were made; the next one has this number. -/
  made : Nat
  /-- The handle held under each name. -/
  held : List (String × Nat)
  /-- The handle watched under each name. -/
  watched : List (String × Nat)
  deriving DecidableEq, Repr

namespace Roll

/-- The roll before any request. -/
def blank : Roll := ⟨[], 0, [], []⟩

/-- Under how many names a handle is held. -/
def holders (roll : Roll) (handle : Nat) : Nat :=
  roll.held.countP fun pair => pair.2 == handle

/-- Takes the handles off the roll that nobody holds. -/
def clear (roll : Roll) : Roll :=
  { roll with live := roll.live.filter fun entry => 0 < roll.holders entry.2 }

/-- Holds a handle under a name, in place of the one that was held under it. -/
def keep (roll : Roll) (name : String) (handle : Nat) : Roll :=
  { roll with held := Holders.put name handle roll.held }.clear

/-- Puts a new request on the roll; its handle is held under a name. -/
def enrol (roll : Roll) (id : RequestId) (name : String) : Roll :=
  { roll with live := (id, roll.made) :: roll.live, made := roll.made + 1 }.keep name roll.made

/-- Takes a request off the roll that has its answer, unless its handle has further
holders. -/
def complete (roll : Roll) (id : RequestId) : Roll :=
  match roll.live.lookup id with
  | some handle =>
    if roll.holders handle ≤ 1 then
      { roll with live := roll.live.filter fun entry => entry.1 != id }
    else roll
  | none => roll

/-- What is answered to a command, and the roll afterwards. -/
def step (roll : Roll) : Holders.Command → Holders.Answer × Roll
  | .register id name =>
    if (roll.live.lookup id).isSome then (.refused (.duplicateId id), roll)
    else (.registered id, roll.enrol id name)
  | .share other name =>
    match roll.held.lookup other with
    | none => (.effect false, roll)
    | some handle => (.effect (roll.held.lookup name).isSome, roll.keep name handle)
  | .watch other name =>
    match roll.held.lookup other with
    | none => (.effect false, roll)
    | some handle =>
      (.effect (roll.watched.lookup name).isSome,
        { roll with watched := Holders.put name handle roll.watched })
  | .drop name =>
    match roll.held.lookup name with
    | none => (.effect false, roll)
    | some _ =>
      (.effect true, { roll with held := roll.held.filter fun pair => pair.1 != name }.clear)
  | .complete id => (.silence, roll.complete id)
  | .cancel id => (.effect (roll.live.lookup id).isSome, roll)
  | .cancelSession => (.silence, roll)
  | .count => (.count roll.live.length, roll)

/-! ## What a command does -/

section Commands

variable {roll : Roll}

/-- A request that is outstanding is not registered again. -/
theorem step_register_of_mapped {id : RequestId} {handle : Nat}
    (mapped : roll.live.lookup id = some handle) (name : String) :
    roll.step (.register id name) = (.refused (.duplicateId id), roll) := by
  simp [step, mapped]

/-- A request that is not outstanding is registered. -/
theorem step_register_of_free {id : RequestId} (free : roll.live.lookup id = none) (name : String) :
    roll.step (.register id name) = (.registered id, roll.enrol id name) := by
  simp [step, free]

/-- Where nothing is held under the name that a command refers to, it does nothing. -/
theorem step_of_unheld (roll : Roll) (command : Holders.Command) {name : String}
    (refers : command.source = some name) (nothing : roll.held.lookup name = none) :
    roll.step command = (.effect false, roll) := by
  cases command with
  | share other taken =>
    obtain rfl : other = name := Option.some.inj refers
    simp only [step, nothing]
  | watch other taken =>
    obtain rfl : other = name := Option.some.inj refers
    simp only [step, nothing]
  | drop other =>
    obtain rfl : other = name := Option.some.inj refers
    simp only [step, nothing]
  | register id taken => exact nomatch refers
  | complete id => exact nomatch refers
  | cancel id => exact nomatch refers
  | cancelSession => exact nomatch refers
  | count => exact nomatch refers

/-- A handle is held under a further name. -/
theorem step_share (roll : Roll) {other : String} {handle : Nat}
    (holds : roll.held.lookup other = some handle) (name : String) :
    roll.step (.share other name) =
      (.effect (roll.held.lookup name).isSome, roll.keep name handle) := by
  simp [step, holds]

/-- A handle is watched under a name. -/
theorem step_watch (roll : Roll) {other : String} {handle : Nat}
    (holds : roll.held.lookup other = some handle) (name : String) :
    roll.step (.watch other name) =
      (.effect (roll.watched.lookup name).isSome,
        { roll with watched := Holders.put name handle roll.watched }) := by
  simp [step, holds]

/-- A handle is let go. -/
theorem step_drop (roll : Roll) {name : String} {handle : Nat}
    (holds : roll.held.lookup name = some handle) :
    roll.step (.drop name) =
      (.effect true, { roll with held := roll.held.filter fun pair => pair.1 != name }.clear) := by
  simp [step, holds]

end Commands

/-! ## What the roll says of a request -/

section Laws

variable {roll : Roll}

/-- The roll with one request each, whose handles are all held. -/
structure Orderly (roll : Roll) : Prop where
  /-- No request stands on the roll twice. -/
  distinct : (roll.live.map Prod.fst).Nodup
  /-- The handles on the roll are held. -/
  held : ∀ entry ∈ roll.live, 0 < roll.holders entry.2

/-- A request that is on the roll is one of its entries. -/
theorem mem_of_lookup {id : RequestId} {handle : Nat} (mapped : roll.live.lookup id = some handle) :
    (id, handle) ∈ roll.live := by
  obtain ⟨before, after, entries, -⟩ := List.lookup_eq_some_iff.mp mapped
  rw [entries]
  exact List.mem_append_right before List.mem_cons_self

/-- A request stays on the roll while its handle is held. -/
theorem lookup_clear (roll : Roll) (distinct : (roll.live.map Prod.fst).Nodup) {id : RequestId}
    {handle : Nat} (mapped : roll.live.lookup id = some handle) :
    roll.clear.live.lookup id = some handle ↔ 0 < roll.holders handle := by
  have kept : roll.clear.live.lookup id =
      (roll.live.lookup id).filter fun number => 0 < roll.holders number :=
    lookup_filter distinct (fun number => 0 < roll.holders number) id
  rw [kept, mapped]
  simp [Option.filter_eq_some_iff]

/-- Two requests do not stand on the roll under one identifier. -/
theorem distinct_cons (distinct : (roll.live.map Prod.fst).Nodup) {id : RequestId}
    (free : roll.live.lookup id = none) (handle : Nat) :
    (((id, handle) :: roll.live).map Prod.fst).Nodup := by
  refine List.nodup_cons.mpr ⟨fun listed => ?_, distinct⟩
  obtain ⟨entry, member, same⟩ := List.mem_map.mp listed
  have other := List.lookup_eq_none_iff.mp free entry member
  simp [same] at other

/-- A request that was on the roll with a new one stays on it while its handle is held. -/
theorem lookup_enrol (distinct : (roll.live.map Prod.fst).Nodup) {id : RequestId}
    (free : roll.live.lookup id = none) (name : String) {other : RequestId} {handle : Nat}
    (listed : ((id, roll.made) :: roll.live).lookup other = some handle) :
    (roll.enrol id name).live.lookup other = some handle ↔
      0 < (roll.enrol id name).holders handle :=
  lookup_clear
    { roll with
      live := (id, roll.made) :: roll.live
      made := roll.made + 1
      held := Holders.put name roll.made roll.held }
    (distinct_cons distinct free roll.made) listed

/-- A new request stands on the roll with the handle that was made for it. -/
theorem lookup_enrol_self (distinct : (roll.live.map Prod.fst).Nodup) {id : RequestId}
    (free : roll.live.lookup id = none) (name : String) :
    (roll.enrol id name).live.lookup id = some roll.made := by
  have held : 0 < (roll.enrol id name).holders roll.made := by
    simp [enrol, keep, clear, holders, Holders.put]
  exact (lookup_enrol distinct free name List.lookup_cons_self).mpr held

/-- A request that has its answer leaves the roll, unless its handle has further holders;
others stay. -/
theorem lookup_complete {id : RequestId} {handle : Nat}
    (mapped : roll.live.lookup id = some handle) (other : RequestId) :
    (roll.complete other).live.lookup id = some handle ↔
      ¬(other = id ∧ roll.holders handle ≤ 1) := by
  by_cases same : other = id
  · subst same
    have told : roll.complete other =
        if roll.holders handle ≤ 1 then
          { roll with live := roll.live.filter fun entry => entry.1 != other }
        else roll := by
      simp [complete, mapped]
    rw [told]
    split
    · next alone =>
      have gone : (without roll.live other).lookup other = none := by
        rw [lookup_without, if_pos rfl]
      change (without roll.live other).lookup other = some handle ↔ _
      simp [gone, alone]
    · next others => simpa [mapped] using Nat.lt_of_not_le others
  · have stays : (roll.complete other).live.lookup id = some handle := by
      unfold complete
      split
      · split
        · change (without roll.live other).lookup id = some handle
          rw [lookup_without, if_neg (Ne.symm same), mapped]
        · exact mapped
      · exact mapped
    simp [stays, same]

/-- A request leaves the roll when the last holder lets go of its handle, and when it has
its answer and its handle no further holders. -/
theorem lookup_step (orderly : roll.Orderly) {id : RequestId} {handle : Nat}
    (mapped : roll.live.lookup id = some handle) (command : Holders.Command) :
    (roll.step command).2.live.lookup id = some handle ↔
      0 < (roll.step command).2.holders handle ∧
        ¬(command = .complete id ∧ roll.holders handle ≤ 1) := by
  have held : 0 < roll.holders handle := orderly.held _ (mem_of_lookup mapped)
  cases command with
  | register other name =>
    cases free : roll.live.lookup other with
    | some number =>
      rw [step_register_of_mapped free]
      simp [mapped, held]
    | none =>
      have different : (id == other) = false := by
        have hne : id ≠ other := fun same => by simp [← same, mapped] at free
        simpa using hne
      have listed : ((other, roll.made) :: roll.live).lookup id = some handle := by
        rw [List.lookup_cons, different]
        exact mapped
      rw [step_register_of_free free]
      simpa using lookup_enrol orderly.distinct free name listed
  | share other name =>
    cases holds : roll.held.lookup other with
    | none => simp [step_of_unheld roll (.share other name) rfl holds, mapped, held]
    | some number =>
      have kept : (roll.keep name number).live.lookup id = some handle ↔
          0 < (roll.keep name number).holders handle :=
        lookup_clear { roll with held := Holders.put name number roll.held } orderly.distinct mapped
      simpa [step_share roll holds] using kept
  | watch other name =>
    cases holds : roll.held.lookup other with
    | none => simp [step_of_unheld roll (.watch other name) rfl holds, mapped, held]
    | some number =>
      rw [step_watch roll holds]
      exact ⟨fun _ => ⟨held, by simp⟩, fun _ => mapped⟩
  | drop name =>
    cases holds : roll.held.lookup name with
    | none => simp [step_of_unheld roll (.drop name) rfl holds, mapped, held]
    | some number =>
      let left := { roll with held := roll.held.filter fun pair => pair.1 != name }
      have kept : left.clear.live.lookup id = some handle ↔ 0 < left.clear.holders handle :=
        lookup_clear left orderly.distinct mapped
      simpa [step_drop roll holds] using kept
  | complete other =>
    have same : (roll.complete other).holders handle = roll.holders handle := by
      unfold complete
      split
      · split <;> rfl
      · rfl
    have left := lookup_complete mapped other
    simpa [step, same, held] using left
  | cancel other => simp [step, mapped, held]
  | cancelSession => simp [step, mapped, held]
  | count => simp [step, mapped, held]

end Laws

end Roll

/-! ## Runs -/

section Runs

variable {σ : Type} (step : σ → Holders.Command → Holders.Answer × σ)

/-- The answers to commands that are given one after the other. -/
def answers : σ → List Holders.Command → List Holders.Answer
  | _, [] => []
  | state, command :: rest => (step state command).1 :: answers (step state command).2 rest

/-- What commands lead to that are given one after the other. -/
def after (state : σ) (commands : List Holders.Command) : σ :=
  commands.foldl (fun state command => (step state command).2) state

/-- One more command. -/
theorem after_concat (state : σ) (commands : List Holders.Command) (command : Holders.Command) :
    after step state (commands ++ [command]) = (step (after step state commands) command).2 :=
  List.foldl_concat _ _ _ _

/-- Commands with what they are answered. -/
def exchange (state : σ) (commands : List Holders.Command) :
    List (Holders.Command × Holders.Answer) :=
  commands.zip (answers step state commands)

variable {step}

/-- Commands that leave everything as it is make no difference to what others are
answered. -/
theorem exchange_filter {counts : Holders.Command → Bool}
    (idle : ∀ state command, counts command = false → (step state command).2 = state) (state : σ)
    (commands : List Holders.Command) :
    (exchange step state commands).filter (fun given => counts given.1) =
      exchange step state (commands.filter counts) := by
  induction commands generalizing state with
  | nil => rfl
  | cons command rest ih =>
    have others := ih (step state command).2
    unfold exchange at others ⊢
    cases hc : counts command with
    | true => simp [answers, hc, others]
    | false =>
      rw [idle state command hc] at others
      simp [answers, hc, idle state command hc, others]

end Runs

end LspGateway.Registry
