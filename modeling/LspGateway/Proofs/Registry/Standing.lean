import LspGateway.Proofs.Registry.Entries

/-!
# What is told of handles

Of a handle it is told for which request it was made and whether that was cancelled. Here
it is said what each operation changes of that; and that a handle which nobody holds any more
is left alone, until everything is cancelled.
-/

namespace LspGateway.Registry

variable {registry : Registry}

/-- The request of every handle, and whether it was cancelled. -/
def standing (registry : Registry) : List (RequestId × Bool) :=
  registry.handles.map fun handle => (handle.id, handle.cancelled)

/-- Handles were made for the requests that they stand for. -/
theorem issued_eq_standing (registry : Registry) :
    registry.issued = registry.standing.map Prod.fst := by
  simp [issued, standing]

/-- A handle is cancelled if it stands so. -/
theorem isCancelled_eq_standing (registry : Registry) (number : Nat) :
    registry.isCancelled number = (registry.standing[number]?.map Prod.snd).getD false := by
  unfold isCancelled standing
  rw [List.getElem?_map, Option.map_map]
  rfl

/-- A handle is cancelled if some request stands so with it. -/
theorem isCancelled_eq_true_iff {number : Nat} :
    registry.isCancelled number = true ↔ ∃ id, registry.standing[number]? = some (id, true) := by
  rw [isCancelled_eq_standing]
  cases registry.standing[number]? with
  | none => simp
  | some told =>
    obtain ⟨id, cancelled⟩ := told
    simp

/-- What is changed of a handle but its request and its cancellation, changes nothing. -/
theorem standing_modify {number : Nat} {change : Handle → Handle}
    (same : ∀ handle, (change handle).id = handle.id ∧
      (change handle).cancelled = handle.cancelled) :
    (registry.modify number change).standing = registry.standing := by
  refine List.ext_getElem? fun index => ?_
  simp only [standing, modify, List.getElem?_map, List.getElem?_modify]
  cases registry.handles[index]? with
  | none => split <;> rfl
  | some handle => split <;> simp [same]

/-- A cancelled handle stands so from then on. -/
theorem standing_modify_cancelled (registry : Registry) (number : Nat) :
    (registry.modify number fun handle => { handle with cancelled := true }).standing =
      registry.standing.modify number fun told => (told.1, true) := by
  refine List.ext_getElem? fun index => ?_
  simp only [standing, modify, List.getElem?_map, List.getElem?_modify]
  cases registry.handles[index]? with
  | none => split <;> rfl
  | some handle => split <;> rfl

/-- A request that has its answer stands as before. -/
theorem standing_complete (registry : Registry) (id : RequestId) :
    (registry.complete id).standing = registry.standing :=
  congrArg (List.map _) (handles_complete registry id)

/-- A request that ends stands as before. -/
theorem standing_ended (registry : Registry) (id : RequestId) (number : Nat) :
    (registry.ended id number).standing = registry.standing := by
  unfold ended letGo
  rw [standing_modify, standing_complete]
  exact fun _ => ⟨rfl, rfl⟩

/-- The end of a request changes no cancellation. -/
theorem isCancelled_ended (registry : Registry) (id : RequestId) (number other : Nat) :
    (registry.ended id number).isCancelled other = registry.isCancelled other := by
  rw [isCancelled_eq_standing, standing_ended, isCancelled_eq_standing]

/-- The cancellation of a request cancels its live handle and no other. -/
theorem isCancelled_cancel (registry : Registry) (id : RequestId) (number : Nat) :
    (registry.cancel id).2.isCancelled number =
      (registry.isCancelled number || registry.live? id == some number) := by
  cases live : registry.live? id with
  | none => simp [cancel, live]
  | some target =>
    have made := lt_length_of_holders (live?_eq_some_iff.mp live).2
    by_cases same : target = number
    · subst same
      simp [cancel, live, isCancelled, modify, made]
    · simp [cancel, live, isCancelled, modify, same]

/-! ## Handles that nobody holds any more -/

/-- A handle has one holder less once its request has ended. -/
theorem holders_ended (registry : Registry) (id : RequestId) (number other : Nat) :
    (registry.ended id number).holders other =
      registry.holders other - if other = number then 1 else 0 := by
  have same : (registry.complete id).holders other = registry.holders other := by
    unfold holders
    rw [handles_complete]
  rw [ended, holders_letGo, same]

/-- Nobody holds a handle any more whose request has ended. -/
theorem Sound.holders_ended_self (h : registry.Sound) {id : RequestId} {number : Nat}
    (live : registry.live? id = some number) : (registry.ended id number).holders number = 0 := by
  obtain ⟨handle, found, -, once⟩ := h.handle_of_live live
  have held : registry.holders number = 1 := by simp [holders, found, once]
  rw [holders_ended, held, if_pos rfl]

/-- A handle that nobody holds is not held again, and it is not cancelled any more, unless
everything is. -/
structure Rests (before after : Registry) : Prop where
  /-- What was cancelled stays so. -/
  all : before.sessionCancelled = true → after.sessionCancelled = true
  /-- Handles that were made stay. -/
  made : before.handles.length ≤ after.handles.length
  /-- Nobody holds such a handle again. -/
  unheld : ∀ number < before.handles.length, before.holders number = 0 → after.holders number = 0
  /-- No cancellation of a request reaches it. -/
  spared : ∀ number < before.handles.length, before.holders number = 0 →
    after.sessionCancelled = false → after.isCancelled number = before.isCancelled number

namespace Rests

/-- Nothing has happened. -/
theorem refl (registry : Registry) : registry.Rests registry :=
  ⟨id, Nat.le_refl _, fun _ _ h => h, fun _ _ _ _ => rfl⟩

/-- Rest carries on. -/
theorem trans {a b c : Registry} (hab : a.Rests b) (hbc : b.Rests c) : a.Rests c where
  all := hbc.all ∘ hab.all
  made := Nat.le_trans hab.made hbc.made
  unheld := fun number made unheld =>
    hbc.unheld number (Nat.lt_of_lt_of_le made hab.made) (hab.unheld number made unheld)
  spared := fun number made unheld lasts => by
    have before : b.sessionCancelled = false := by
      cases hb : b.sessionCancelled with
      | false => rfl
      | true => exact absurd ((hbc.all hb).symm.trans lasts) (by simp)
    rw [hbc.spared number (Nat.lt_of_lt_of_le made hab.made) (hab.unheld number made unheld) lasts,
      hab.spared number made unheld before]

/-- A request is registered. -/
theorem registered (registry : Registry) (id : RequestId) :
    registry.Rests (registry.registered id) where
  all := fun all => all
  made := by simp [Registry.registered]
  unheld := fun number made unheld => by
    rw [holders_registered, if_neg (Nat.ne_of_lt made), unheld]
  spared := fun number made _ _ => by
    simp [isCancelled, Registry.registered, List.getElem?_append_left made]

/-- A request is cancelled; that is one with a handle that somebody holds. -/
theorem cancel (registry : Registry) (id : RequestId) : registry.Rests (registry.cancel id).2 where
  all := fun all => by
    unfold Registry.cancel
    split <;> exact all
  made := Nat.le_of_eq (length_cancel registry id).symm
  unheld := fun number _ unheld => by rw [holders_cancel, unheld]
  spared := fun number _ unheld _ => by
    have other : (registry.live? id == some number) = false := by
      refine beq_eq_false_iff_ne.mpr fun live => ?_
      have held := (live?_eq_some_iff.mp live).2
      omega
    rw [isCancelled_cancel, other, Bool.or_false]

/-- Everything is cancelled. -/
theorem cancelSession (registry : Registry) : registry.Rests registry.cancelSession where
  all := fun _ => rfl
  made := by simp [Registry.cancelSession]
  unheld := fun number _ unheld => by rw [holders_cancelSession, unheld]
  spared := fun _ _ _ lasts => absurd lasts (by simp [Registry.cancelSession])

/-- A request has its answer, and its handle is let go. -/
theorem ended (registry : Registry) (id : RequestId) (handle : Nat) :
    registry.Rests (registry.ended id handle) where
  all := fun all => by rw [sessionCancelled_ended, all]
  made := by
    have same := congrArg List.length (issued_ended registry id handle)
    simp only [issued, List.length_map] at same
    exact Nat.le_of_eq same.symm
  unheld := fun number _ unheld => by
    rw [holders_ended, unheld, Nat.zero_sub]
  spared := fun number _ _ _ => isCancelled_ended registry id handle number

end Rests

end LspGateway.Registry
