import LspGateway.Proofs.Registry.Roll

/-!
# The holders that a registry counts

The counts of a registry are right when every handle has as many holders as there are names
that it is held under. Commands keep them right, and from right counts follows which live
entries a command leaves, and so what stands on the roll.
-/

namespace LspGateway.Registry

namespace Holders

/-- What is answered to a command, and the holders afterwards. -/
def step (holders : Holders) (command : Command) : Answer × Holders :=
  ((holders.run command).1, (holders.run command).2.1)

/-- What stands on the roll: the live entries, and nothing of handles that are gone. -/
def roll (holders : Holders) : Roll :=
  ⟨holders.registry.liveEntries, holders.registry.handles.length, holders.held, holders.watched⟩

/-- The counts of the registry are right. -/
structure Counted (holders : Holders) : Prop where
  /-- The registry finds every handle under its identifier. -/
  filed : holders.registry.Filed
  /-- Nobody has two handles. -/
  names : (holders.held.map Prod.fst).Nodup
  /-- A handle is held as often as there are names it is held under. -/
  counted : ∀ number, holders.registry.holders number =
    holders.held.countP fun pair => pair.2 == number

/-- The registry after what is held under a name was let go. -/
def dismissed (holders : Holders) (name : String) : Registry :=
  match holders.held.lookup name with
  | some old => holders.registry.letGo old
  | .none => holders.registry

/-! ## What a command does -/

section Commands

variable {holders : Holders}

/-- A request whose handle is live is not registered again. -/
theorem step_register_of_live {id : RequestId} {number : Nat}
    (live : holders.registry.live? id = some number) (name : String) :
    holders.step (.register id name) = (.refused (.duplicateId id), holders) := by
  simp [step, run, register_of_live live]

/-- A request without live handle is registered. -/
theorem step_register_of_free {id : RequestId}
    (free : holders.registry.live? id = Option.none) (name : String) :
    holders.step (.register id name) =
      (.registered id, ({ holders with registry := holders.registry.registered id }.keep name
        holders.registry.handles.length).2) := by
  simp [step, run, register_of_free free]

/-- Where nothing is held under the name that a command refers to, it does nothing. -/
theorem step_of_unheld (holders : Holders) (command : Command) {name : String}
    (refers : command.source = some name) (nothing : holders.held.lookup name = Option.none) :
    holders.step command = (.effect false, holders) := by
  cases command with
  | share other taken =>
    obtain rfl : other = name := Option.some.inj refers
    simp only [step, run, nothing]
  | watch other taken =>
    obtain rfl : other = name := Option.some.inj refers
    simp only [step, run, nothing]
  | drop other =>
    obtain rfl : other = name := Option.some.inj refers
    simp only [step, run, nothing]
  | register id taken => exact nomatch refers
  | complete id => exact nomatch refers
  | cancel id => exact nomatch refers
  | cancelSession => exact nomatch refers
  | count => exact nomatch refers

/-- A handle is held under a further name. -/
theorem step_share (holders : Holders) {other : String} {handle : Nat}
    (holds : holders.held.lookup other = some handle) (name : String) :
    holders.step (.share other name) = (.effect (holders.held.lookup name).isSome,
      ({ holders with registry := holders.registry.hold handle }.keep name handle).2) := by
  simp [step, run, holds, keep]

/-- A handle is watched under a name. -/
theorem step_watch (holders : Holders) {other : String} {handle : Nat}
    (holds : holders.held.lookup other = some handle) (name : String) :
    holders.step (.watch other name) = (.effect (holders.watched.lookup name).isSome,
      { holders with watched := put name handle holders.watched }) := by
  simp [step, run, holds]

/-- A handle is let go. -/
theorem step_drop (holders : Holders) {name : String} {handle : Nat}
    (holds : holders.held.lookup name = some handle) :
    holders.step (.drop name) =
      (.effect true, { holders with
        registry := holders.registry.letGo handle
        held := holders.held.filter fun pair => pair.1 != name }) := by
  simp [step, run, holds]

end Commands

/-! ## What is counted -/

section Names

/-- The handles held under other names than one. -/
theorem countP_held {held : List (String × Nat)} (names : (held.map Prod.fst).Nodup)
    (name : String) (number : Nat) :
    held.countP (fun pair => pair.2 == number) =
      (held.filter fun pair => pair.1 != name).countP (fun pair => pair.2 == number) +
        if held.lookup name = some number then 1 else 0 := by
  induction held with
  | nil => rfl
  | cons pair rest ih =>
    obtain ⟨other, handle⟩ := pair
    obtain ⟨fresh, others⟩ := List.nodup_cons.mp names
    by_cases hname : name = other
    · subst hname
      -- Nothing else is held under the name, so the other pairs stay.
      have kept : rest.filter (fun pair => pair.1 != name) = rest := by
        refine List.filter_eq_self.mpr fun pair hp => ?_
        have hne : pair.1 ≠ name := fun heq => fresh (List.mem_map.mpr ⟨pair, hp, heq⟩)
        simpa using hne
      by_cases hn : handle = number <;> simp [kept, hn]
    · have hne : (name == other) = false := by simpa using hname
      have same : ((other, handle) :: rest).lookup name = rest.lookup name := by
        rw [List.lookup_cons, hne]
      have kept : ((other, handle) :: rest).filter (fun pair => pair.1 != name) =
          (other, handle) :: rest.filter fun pair => pair.1 != name :=
        List.filter_cons_of_pos (by simpa using Ne.symm hname)
      rw [same, kept, List.countP_cons, List.countP_cons, ih others]
      omega

variable {holders : Holders}

/-- A handle that is held under a name loses a holder once the name lets go. -/
theorem holders_dismissed (holders : Holders) (name : String) (number : Nat) :
    (holders.dismissed name).holders number = holders.registry.holders number -
      if holders.held.lookup name = some number then 1 else 0 := by
  unfold dismissed
  cases hl : holders.held.lookup name with
  | none => simp
  | some old => simp [holders_letGo, eq_comm]

/-- Letting go makes and forgets no handle. -/
theorem handles_dismissed (holders : Holders) (name : String) :
    (holders.dismissed name).handles.length = holders.registry.handles.length := by
  unfold dismissed
  split
  · exact List.length_modify _ _ _
  · rfl

/-- Letting go forgets no entry. -/
theorem entries_dismissed (holders : Holders) (name : String) :
    (holders.dismissed name).entries = holders.registry.entries := by
  unfold dismissed
  split <;> rfl

/-- Letting go leaves every handle under its identifier. -/
theorem filed_dismissed (filed : holders.registry.Filed) (name : String) :
    (holders.dismissed name).Filed := by
  unfold dismissed
  split
  · next old _ => exact filed.modify old fun _ => rfl
  · exact filed

/-- Letting go takes the handles off the roll that are not held any more. -/
theorem liveEntries_dismissed (holders : Holders) (name : String) :
    (holders.dismissed name).liveEntries =
      holders.registry.liveEntries.filter fun entry => (holders.dismissed name).isLive entry.2 :=
  liveEntries_of_le (holders.entries_dismissed name) fun number => by
    rw [holders_dismissed]
    exact Nat.sub_le _ _

/-- Where a handle has one holder more than names, it is counted right once it is held
under a name; and the roll tells what follows for the one held under the name before. -/
theorem keep_spec (holders : Holders) (filed : holders.registry.Filed)
    (names : (holders.held.map Prod.fst).Nodup) {handle : Nat}
    (counted : ∀ number, holders.registry.holders number =
      (holders.held.countP fun pair => pair.2 == number) + if number = handle then 1 else 0)
    (name : String) :
    (holders.keep name handle).2.Counted ∧
      (holders.keep name handle).2.roll = holders.roll.keep name handle := by
  have right (number : Nat) : (holders.dismissed name).holders number =
      (put name handle holders.held).countP fun pair => pair.2 == number := by
    have before := countP_held names name number
    have listed : (put name handle holders.held).countP (fun pair => pair.2 == number) =
        (holders.held.filter fun pair => pair.1 != name).countP (fun pair => pair.2 == number) +
          if number = handle then 1 else 0 := by
      rw [put, List.countP_cons]
      by_cases hn : number = handle <;> simp [hn, Ne.symm]
    rw [holders_dismissed, counted, listed, before]
    omega
  refine ⟨⟨filed_dismissed filed name, ?_, right⟩, ?_⟩
  · refine List.nodup_cons.mpr ⟨?_, names.sublist (List.filter_sublist.map Prod.fst)⟩
    intro hmem
    obtain ⟨pair, hpair, hname⟩ := List.mem_map.mp hmem
    exact absurd hname (by simpa using (List.mem_filter.mp hpair).2)
  · have live : (holders.dismissed name).liveEntries =
        (holders.roll.keep name handle).live := by
      rw [liveEntries_dismissed]
      refine List.filter_congr fun entry _ => ?_
      unfold isLive
      rw [right]
      rfl
    change Roll.mk (holders.dismissed name).liveEntries (holders.dismissed name).handles.length
      _ _ =
      _
    rw [live, handles_dismissed]
    rfl

end Names

namespace Counted

variable {holders : Holders}

/-- Nobody holds anything of an empty registry. -/
theorem none : Holders.none.Counted :=
  ⟨.empty, List.nodup_nil, fun _ => rfl⟩

/-- The look-up on the roll is that of live handles. -/
theorem lookup_live (h : holders.Counted) (id : RequestId) :
    holders.roll.live.lookup id = holders.registry.live? id :=
  h.filed.lookup_liveEntries id

/-- What is held under a name has a holder. -/
theorem held (h : holders.Counted) {name : String} {handle : Nat}
    (holds : holders.held.lookup name = some handle) : 0 < holders.registry.holders handle := by
  rw [h.counted, countP_held h.names name, if_pos holds]
  exact Nat.succ_pos _

/-- A registry in which handles have the holders that they had is counted right. -/
theorem withRegistry (h : holders.Counted) {registry : Registry} (filed : registry.Filed)
    (same : ∀ number, registry.holders number = holders.registry.holders number) :
    { holders with registry := registry }.Counted :=
  ⟨filed, h.names, fun number => (same number).trans (h.counted number)⟩

/-- A request is registered, and its handle held. -/
theorem register (h : holders.Counted) {id : RequestId}
    (free : holders.registry.live? id = Option.none) (name : String) :
    (({ holders with registry := holders.registry.registered id }.keep name
        holders.registry.handles.length).2).Counted ∧
      ({ holders with registry := holders.registry.registered id }.keep name
        holders.registry.handles.length).2.roll =
        holders.roll.enrol id name := by
  have counted (number : Nat) : (holders.registry.registered id).holders number =
      (holders.held.countP fun pair => pair.2 == number) +
        if number = holders.registry.handles.length then 1 else 0 := by
    rw [holders_registered, h.counted]
  obtain ⟨right, told⟩ := keep_spec { holders with
    registry := holders.registry.registered id } (h.filed.registered id) h.names counted name
  refine ⟨right, told.trans ?_⟩
  have listed : ({ holders with registry := holders.registry.registered id } : Holders).roll =
      { holders.roll with
        live := (id, holders.roll.made) :: holders.roll.live
        made := holders.roll.made + 1 } := by
    change Roll.mk _ _ _ _ = Roll.mk _ _ _ _
    rw [h.filed.liveEntries_registered free]
    simp [Registry.registered, roll]
  rw [listed]
  rfl

/-- A handle is held under a further name. -/
theorem share (h : holders.Counted) {other : String} {handle : Nat}
    (holds : holders.held.lookup other = some handle) (name : String) :
    ({ holders with registry := holders.registry.hold handle }.keep name handle).2.Counted ∧
      ({ holders with registry := holders.registry.hold handle }.keep name handle).2.roll =
        holders.roll.keep name handle := by
  have held := h.held holds
  have counted (number : Nat) : (holders.registry.hold handle).holders number =
      (holders.held.countP fun pair => pair.2 == number) + if number = handle then 1 else 0 := by
    rw [holders_hold (lt_length_of_holders held), h.counted]
  obtain ⟨right, told⟩ := keep_spec { holders with
    registry := holders.registry.hold handle } (h.filed.modify handle fun _ => rfl) h.names
    counted name
  refine ⟨right, told.trans ?_⟩
  have same : ({ holders with registry := holders.registry.hold handle } : Holders).roll =
      holders.roll := by
    change Roll.mk _ _ _ _ = Roll.mk _ _ _ _
    rw [liveEntries_hold held]
    simp [Registry.hold, modify]
  rw [same]

/-- A handle is let go. -/
theorem drop (h : holders.Counted) (name : String) :
    ({ holders with
        registry := holders.dismissed name
        held := holders.held.filter fun pair => pair.1 != name } : Holders).Counted ∧
      ({ holders with
          registry := holders.dismissed name
          held := holders.held.filter fun pair => pair.1 != name } : Holders).roll =
        { holders.roll with held := holders.held.filter fun pair => pair.1 != name }.clear := by
  have right (number : Nat) : (holders.dismissed name).holders number =
      (holders.held.filter fun pair => pair.1 != name).countP fun pair => pair.2 == number := by
    rw [holders_dismissed, h.counted, countP_held h.names name, Nat.add_sub_cancel]
  refine ⟨⟨filed_dismissed h.filed name, h.names.sublist (List.filter_sublist.map Prod.fst),
    right⟩, ?_⟩
  have live : (holders.dismissed name).liveEntries = holders.registry.liveEntries.filter
      fun entry => 0 < (holders.held.filter fun pair => pair.1 != name).countP
        fun pair => pair.2 == entry.2 := by
    rw [liveEntries_dismissed]
    refine List.filter_congr fun entry _ => ?_
    unfold isLive
    rw [right]
  change Roll.mk _ _ _ _ = Roll.mk _ _ _ _
  rw [live, handles_dismissed]
  rfl

/-- A request has its answer. -/
theorem complete (h : holders.Counted) (id : RequestId) :
    { holders with registry := holders.registry.complete id }.Counted ∧
      ({ holders with registry := holders.registry.complete id } : Holders).roll =
        holders.roll.complete id := by
  have same := handles_complete holders.registry id
  refine ⟨h.withRegistry (h.filed.complete id) fun number => ?_, ?_⟩
  · unfold Registry.holders
    rw [same]
  · have live : (holders.registry.complete id).liveEntries = (holders.roll.complete id).live := by
      rw [h.filed.liveEntries_complete]
      unfold Roll.complete
      rw [h.lookup_live]
      cases holders.registry.live? id with
      | none => rfl
      | some number =>
        simp only [h.counted number]
        change _ =
          Roll.live (if (holders.held.countP fun pair => pair.2 == number) ≤ 1 then _ else _)
        split <;> rfl
    have rest : (holders.roll.complete id).made = holders.registry.handles.length ∧
        (holders.roll.complete id).held = holders.held ∧
        (holders.roll.complete id).watched = holders.watched := by
      unfold Roll.complete
      split
      · split <;> exact ⟨rfl, rfl, rfl⟩
      · exact ⟨rfl, rfl, rfl⟩
    change Roll.mk (holders.registry.complete id).liveEntries
      (holders.registry.complete id).handles.length holders.held holders.watched = _
    rw [live, same, ← rest.1, ← rest.2.1, ← rest.2.2]

/-- Holders of a registry in which nothing has changed that a roll tells of. -/
theorem unchanged (h : holders.Counted) {registry : Registry} (filed : registry.Filed)
    (entries : registry.entries = holders.registry.entries)
    (length : registry.handles.length = holders.registry.handles.length)
    (same : ∀ number, registry.holders number = holders.registry.holders number) :
    { holders with registry := registry }.Counted ∧
      ({ holders with registry := registry } : Holders).roll = holders.roll := by
  refine ⟨h.withRegistry filed same, ?_⟩
  change Roll.mk _ _ _ _ = Roll.mk _ _ _ _
  rw [liveEntries_congr entries same, length]

/-- A request is cancelled. -/
theorem cancel (h : holders.Counted) (id : RequestId) :
    { holders with registry := (holders.registry.cancel id).2 }.Counted ∧
      ({ holders with registry := (holders.registry.cancel id).2 } : Holders).roll =
        holders.roll :=
  h.unchanged (h.filed.cancel id) (entries_cancel holders.registry id)
    (length_cancel holders.registry id) (holders_cancel holders.registry id)

/-- Everything is cancelled. -/
theorem cancelSession (h : holders.Counted) :
    { holders with registry := holders.registry.cancelSession }.Counted ∧
      ({ holders with registry := holders.registry.cancelSession } : Holders).roll =
        holders.roll :=
  h.unchanged h.filed.cancelSession rfl (List.length_map _)
    (holders_cancelSession holders.registry)

/-- The entries of handles that are gone are forgotten. -/
theorem prune (h : holders.Counted) :
    { holders with registry := holders.registry.prune }.Counted ∧
      ({ holders with registry := holders.registry.prune } : Holders).roll = holders.roll := by
  refine ⟨h.withRegistry (h.filed.forgotten _) fun _ => rfl, ?_⟩
  have pruned : holders.registry.prune.liveEntries = holders.registry.liveEntries :=
    (List.filter_filter ..).trans (List.filter_congr fun _ _ => Bool.and_self _)
  change Roll.mk holders.registry.prune.liveEntries _ _ _ = Roll.mk _ _ _ _
  rw [pruned]
  rfl

end Counted

end Holders

end LspGateway.Registry
