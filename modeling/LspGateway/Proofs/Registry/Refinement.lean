import LspGateway.Proofs.Registry.Counts

/-!
# The registry gives the answers of the roll

Command by command the registry is answered as the roll is, and leads to what the roll
leads to; so no run tells the two apart. Counting leaves the roll as it is, and so it makes
no difference to any other answer when the outstanding requests are counted, although the
registry forgets entries whenever it counts.
-/

namespace LspGateway.Registry

namespace Holders

variable {holders : Holders}

namespace Counted

/-- Every command is answered as the roll answers it, and leads to what the roll leads
to. -/
theorem step (h : holders.Counted) (command : Command) :
    (holders.step command).2.Counted ∧
      (holders.step command).1 = (holders.roll.step command).1 ∧
      (holders.step command).2.roll = (holders.roll.step command).2 := by
  cases command with
  | register id name =>
    cases live : holders.registry.live? id with
    | some number =>
      have mapped : holders.roll.live.lookup id = some number := (h.lookup_live id).trans live
      rw [step_register_of_live live, Roll.step_register_of_mapped mapped]
      exact ⟨h, rfl, rfl⟩
    | none =>
      have free : holders.roll.live.lookup id = Option.none := (h.lookup_live id).trans live
      obtain ⟨right, same⟩ := h.register live name
      rw [step_register_of_free live, Roll.step_register_of_free free]
      exact ⟨right, rfl, same⟩
  | share other name =>
    cases holds : holders.held.lookup other with
    | none =>
      rw [step_of_unheld holders _ rfl holds, holders.roll.step_of_unheld _ rfl holds]
      exact ⟨h, rfl, rfl⟩
    | some handle =>
      obtain ⟨right, same⟩ := h.share holds name
      rw [step_share holders holds, holders.roll.step_share holds]
      exact ⟨right, rfl, same⟩
  | watch other name =>
    cases holds : holders.held.lookup other with
    | none =>
      rw [step_of_unheld holders _ rfl holds, holders.roll.step_of_unheld _ rfl holds]
      exact ⟨h, rfl, rfl⟩
    | some handle =>
      rw [step_watch holders holds, holders.roll.step_watch holds]
      exact ⟨⟨h.filed, h.names, h.counted⟩, rfl, rfl⟩
  | drop name =>
    cases holds : holders.held.lookup name with
    | none =>
      rw [step_of_unheld holders _ rfl holds, holders.roll.step_of_unheld _ rfl holds]
      exact ⟨h, rfl, rfl⟩
    | some handle =>
      have left : holders.registry.letGo handle = holders.dismissed name := by
        simp [dismissed, holds]
      obtain ⟨right, same⟩ := h.drop name
      rw [step_drop holders holds, holders.roll.step_drop holds, left]
      exact ⟨right, rfl, same⟩
  | complete id =>
    obtain ⟨right, same⟩ := h.complete id
    exact ⟨right, rfl, same⟩
  | cancel id =>
    have found : (holders.registry.cancel id).1 = (holders.roll.live.lookup id).isSome := by
      rw [h.lookup_live]
      unfold Registry.cancel
      cases holders.registry.live? id <;> rfl
    obtain ⟨right, same⟩ := h.cancel id
    exact ⟨right, congrArg Answer.effect found, same⟩
  | cancelSession =>
    obtain ⟨right, same⟩ := h.cancelSession
    exact ⟨right, rfl, same⟩
  | count =>
    obtain ⟨right, same⟩ := h.prune
    exact ⟨right, congrArg Answer.count (outstanding_eq holders.registry), same⟩

/-- From holders whose counts are right, all commands are answered as the roll answers
them, and lead to what the roll leads to. -/
theorem run (h : holders.Counted) (commands : List Command) :
    (after Holders.step holders commands).Counted ∧
      answers Holders.step holders commands = answers Roll.step holders.roll commands ∧
      (after Holders.step holders commands).roll = after Roll.step holders.roll commands := by
  induction commands generalizing holders with
  | nil => exact ⟨h, rfl, rfl⟩
  | cons command rest ih =>
    obtain ⟨right, answer, same⟩ := h.step command
    obtain ⟨counted, others, told⟩ := ih right
    rw [same] at others told
    exact ⟨counted, congrArg₂ List.cons answer others, told⟩

end Counted

/-- The holders after commands, from the beginning. -/
def following (commands : List Command) : Holders :=
  after step none commands

/-- The counts are right after all commands. -/
theorem counted_following (commands : List Command) : (following commands).Counted :=
  (Counted.none.run commands).1

/-- What stands on the roll after all commands. -/
theorem roll_following (commands : List Command) :
    (following commands).roll = after Roll.step Roll.blank commands :=
  (Counted.none.run commands).2.2

/-- A roll is in order where the counts are right. -/
theorem Counted.orderly {holders : Holders} (h : holders.Counted) : holders.roll.Orderly := by
  refine ⟨h.filed.distinct_liveEntries, fun entry listed => ?_⟩
  have live : 0 < holders.registry.holders entry.2 := by
    simpa [isLive] using (List.mem_filter.mp listed).2
  rwa [h.counted] at live

end Holders

/-! ## What is answered -/

/-- The roll after all commands. -/
def rolled (commands : List Holders.Command) : Roll :=
  after Roll.step Roll.blank commands

/-- The roll is in order after all commands. -/
theorem orderly_rolled (commands : List Holders.Command) : (rolled commands).Orderly := by
  have orderly := (Holders.counted_following commands).orderly
  rwa [Holders.roll_following] at orderly

/-- The look-up of live handles is that of the roll. -/
theorem live?_following (commands : List Holders.Command) (id : RequestId) :
    (Holders.following commands).registry.live? id = (rolled commands).live.lookup id := by
  rw [← (Holders.counted_following commands).lookup_live, Holders.roll_following]
  rfl

/-- Whether something else is asked than how many requests are outstanding. -/
def asksElse (command : Holders.Command) : Bool :=
  command != .count

/-- The registry and the roll are not told apart after some commands. -/
structure FollowsRoll (commands : List Holders.Command) : Prop where
  /-- All commands were answered as the roll answers them. -/
  answered : answers Holders.step Holders.none commands = answers Roll.step Roll.blank commands
  /-- The same handles are found. -/
  found : ∀ id, (Holders.following commands).registry.live? id = (rolled commands).live.lookup id
  /-- A handle has as many holders as there are names that it is held under. -/
  counted : ∀ number,
    (Holders.following commands).registry.holders number = (rolled commands).holders number
  /-- The roll has one handle for a request, and somebody holds it. -/
  orderly : (rolled commands).Orderly
  /-- A registration is refused, and then changes nothing, exactly if the identifier is on the
  roll. -/
  refused : ∀ id name, (Holders.following commands).step (.register id name) =
      (.refused (.duplicateId id), Holders.following commands) ↔
    ((rolled commands).live.lookup id).isSome = true
  /-- Otherwise the identifier gets a handle that was never made before. -/
  fresh : ∀ id name, (rolled commands).live.lookup id = none →
    ((Holders.following commands).step (.register id name)).1 = .registered id ∧
      ((Holders.following commands).step (.register id name)).2.registry.live? id =
        some (Holders.following commands).registry.handles.length
  /-- A request leaves the roll when the last holder lets go of its handle, and when it has
  its answer and its handle no further holders; else it stays. -/
  left : ∀ id handle command, (rolled commands).live.lookup id = some handle →
    ((rolled (commands ++ [command])).live.lookup id = some handle ↔
      0 < (rolled (commands ++ [command])).holders handle ∧
        ¬(command = .complete id ∧ (rolled commands).holders handle ≤ 1))
  /-- Wherever the requests are counted, all else is answered the same. -/
  counting : ∀ others, others.filter asksElse = commands.filter asksElse →
    (exchange Holders.step Holders.none others).filter (fun given => asksElse given.1) =
      (exchange Holders.step Holders.none commands).filter fun given => asksElse given.1

/-- Commands other than counts are answered as if nothing had been counted. -/
theorem exchange_asksElse (commands : List Holders.Command) :
    (exchange Holders.step Holders.none commands).filter (fun given => asksElse given.1) =
      exchange Roll.step Roll.blank (commands.filter asksElse) := by
  have same : exchange Holders.step Holders.none commands =
      exchange Roll.step Roll.blank commands :=
    congrArg commands.zip (Holders.Counted.none.run commands).2.1
  have idle (roll : Roll) (command : Holders.Command) (hc : asksElse command = false) :
      (roll.step command).2 = roll := by
    have count : command = .count := by simpa [asksElse] using hc
    rw [count]
    rfl
  rw [same]
  exact exchange_filter idle Roll.blank commands

/-- A registry that refers to handles, some of them gone, is not told apart from a roll on
which every outstanding request stands with its handle. -/
theorem registry_follows_roll (commands : List Holders.Command) : FollowsRoll commands := by
  have counted := Holders.counted_following commands
  have orderly := orderly_rolled commands
  have found := live?_following commands
  have roll : (Holders.following commands).roll = rolled commands :=
    Holders.roll_following commands
  have after_step (command : Holders.Command) :
      rolled (commands ++ [command]) = ((rolled commands).step command).2 :=
    after_concat Roll.step Roll.blank commands command
  refine
    { answered := (Holders.Counted.none.run commands).2.1
      found := found
      counted := fun number => ?_
      orderly := orderly
      refused := fun id name => ?_
      fresh := fun id name free => ?_
      left := fun id handle command mapped => ?_
      counting := fun others same => ?_ }
  · rw [counted.counted, ← roll]
    rfl
  · rw [← found]
    cases live : (Holders.following commands).registry.live? id with
    | some number => simp [Holders.step_register_of_live live]
    | none => simp [Holders.step_register_of_free live]
  · have registered := Holders.step_register_of_free ((found id).trans free) name
    obtain ⟨right, -, same⟩ := counted.step (.register id name)
    refine ⟨by rw [registered], ?_⟩
    rw [← right.lookup_live, same, roll, Roll.step_register_of_free free]
    have made : (rolled commands).made = (Holders.following commands).registry.handles.length := by
      rw [← roll]
      rfl
    rw [← made]
    exact Roll.lookup_enrol_self orderly.distinct free name
  · rw [after_step]
    exact Roll.lookup_step orderly mapped command
  · rw [exchange_asksElse, exchange_asksElse, same]

/-- A handle that is held on keeps its identifier taken until it is let go; the next handle of
the identifier has nothing to do with it. -/
example : answers Holders.step Holders.none
    [.register (.number 1) "first", .share "first" "second", .complete (.number 1),
      .drop "first", .register (.number 1) "third", .drop "second", .register (.number 1) "third",
      .cancel (.number 1), .count] =
    [.registered (.number 1), .effect false, .silence, .effect true,
      .refused (.duplicateId (.number 1)), .effect true, .registered (.number 1), .effect true,
      .count 1] := by
  decide

end LspGateway.Registry
