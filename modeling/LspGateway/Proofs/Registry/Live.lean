import LspGateway.Registry.Basic

/-!
# The live handle of an identifier

What each operation does to the look-up of live handles, for registries whose
entries refer to handles made for them and held at most once. Such registries
are those of a session, where only the task of a request holds its handle.
-/

namespace LspGateway.Registry

/-- Entries refer to handles that were made for their identifier and that have
one holder at most. -/
def Sound (registry : Registry) : Prop :=
  ∀ id number, registry.entries.lookup id = some number →
    ∃ handle, registry.handles[number]? = some handle ∧ handle.id = id ∧ handle.holders ≤ 1

/-- Pairs of other keys stay when those of one key are left out. -/
theorem lookup_filter_ne {κ ν : Type} [DecidableEq κ] (pairs : List (κ × ν)) (key other : κ) :
    (pairs.filter fun pair => pair.1 != key).lookup other =
      if other = key then none else pairs.lookup other := by
  induction pairs with
  | nil => simp
  | cons pair rest ih =>
    obtain ⟨first, value⟩ := pair
    by_cases hk : first = key
    · subst hk
      by_cases ho : other = first
      · simpa [ho] using ih
      · have hne : (other == first) = false := by simpa using ho
        simpa [ho, List.lookup_cons, hne] using ih
    · by_cases ho : other = first
      · subst ho
        simp [hk]
      · have hne : (other == first) = false := by simpa using ho
        simpa [hk, List.lookup_cons, hne] using ih

/-- The entries of other identifiers stay. -/
theorem lookup_without (entries : List (RequestId × Nat)) (id other : RequestId) :
    (without entries id).lookup other = if other = id then none else entries.lookup other :=
  lookup_filter_ne entries id other

/-- A live handle is the one of the entry, and it is held. -/
theorem live?_eq_some_iff {registry : Registry} {id : RequestId} {number : Nat} :
    registry.live? id = some number ↔
      registry.entries.lookup id = some number ∧ 0 < registry.holders number := by
  simp [live?, isLive, Option.filter_eq_some_iff]

/-- In a sound registry a live handle is held once and was made for its
identifier. -/
theorem Sound.handle_of_live {registry : Registry} (h : registry.Sound) {id : RequestId}
    {number : Nat} (hl : registry.live? id = some number) :
    ∃ handle, registry.handles[number]? = some handle ∧ handle.id = id ∧ handle.holders = 1 := by
  obtain ⟨hentry, hheld⟩ := live?_eq_some_iff.mp hl
  obtain ⟨handle, hh, hid, hone⟩ := h id number hentry
  simp only [holders, hh, Option.map_some, Option.getD_some] at hheld
  exact ⟨handle, hh, hid, by omega⟩

/-- Two registries with the same entries, whose handles agree but for their
cancellation, have the same live handles. -/
theorem live?_congr (first second : Registry) (he : first.entries = second.entries)
    (hh : ∀ number, first.holders number = second.holders number) (id : RequestId) :
    first.live? id = second.live? id := by
  unfold live? isLive
  rw [he]
  congr 1
  funext number
  rw [hh]

/-! ## Making handles -/

/-- A registration is refused exactly when the identifier has a live handle. -/
theorem register_of_live {registry : Registry} {id : RequestId} {number : Nat}
    (h : registry.live? id = some number) : registry.register id = .error (.duplicateId id) := by
  unfold register
  rw [h]

/-- The registry after a registration. -/
def registered (registry : Registry) (id : RequestId) : Registry :=
  { registry with
    handles := registry.handles ++ [⟨id, 1, registry.sessionCancelled⟩]
    entries := (id, registry.handles.length) :: without registry.entries id }

/-- A registration that is not refused yields the number of a new handle. -/
theorem register_of_free {registry : Registry} {id : RequestId} (h : registry.live? id = none) :
    registry.register id = .ok (registry.handles.length, registry.registered id) := by
  unfold register
  rw [h]
  rfl

/-- The entry of a registration is in front. -/
theorem lookup_registered (registry : Registry) (id other : RequestId) :
    (registry.registered id).entries.lookup other =
      if other = id then some registry.handles.length else registry.entries.lookup other := by
  by_cases h : other = id
  · subst h
    simp [registered]
  · have hne : (other == id) = false := by simpa using h
    simp only [registered, List.lookup_cons, hne, lookup_without, h, if_false]

/-- Handles made earlier are left alone by a registration. -/
theorem handles_registered {registry : Registry} {number : Nat} {handle : Handle}
    (h : registry.handles[number]? = some handle) (id : RequestId) :
    (registry.registered id).handles[number]? = some handle := by
  have hlt := (List.getElem?_eq_some_iff.mp h).1
  simp only [registered, List.getElem?_append_left hlt, h]

/-- A registration keeps a registry sound. -/
theorem Sound.registered {registry : Registry} (h : registry.Sound) (id : RequestId) :
    (registry.registered id).Sound := by
  intro other number hentry
  rw [lookup_registered] at hentry
  split at hentry
  · next ho =>
    obtain rfl := Option.some.inj hentry
    exact ⟨⟨id, 1, registry.sessionCancelled⟩, by simp [Registry.registered], ho.symm, Nat.le_refl 1⟩
  · obtain ⟨handle, hh, hid, hone⟩ := h other number hentry
    exact ⟨handle, handles_registered hh id, hid, hone⟩

/-- After a registration the identifier has the new handle; all others have
what they had. -/
theorem live?_registered {registry : Registry} (h : registry.Sound) (id other : RequestId) :
    (registry.registered id).live? other =
      if other = id then some registry.handles.length else registry.live? other := by
  split
  · next ho =>
    refine live?_eq_some_iff.mpr ⟨by rw [lookup_registered, if_pos ho], ?_⟩
    simp [holders, Registry.registered]
  · next ho =>
    unfold live?
    rw [lookup_registered, if_neg ho]
    cases hentry : registry.entries.lookup other with
    | none => rfl
    | some number =>
      obtain ⟨handle, hh, -, -⟩ := h other number hentry
      simp only [Option.filter, isLive, holders, hh, handles_registered hh id]

/-! ## Cancelling -/

/-- Changing a handle without its identifier and its holders. -/
theorem holders_modify {registry : Registry} {number : Nat} {change : Handle → Handle}
    (h : ∀ handle, (change handle).holders = handle.holders) (other : Nat) :
    (registry.modify number change).holders other = registry.holders other := by
  simp only [holders, modify, List.getElem?_modify]
  cases registry.handles[other]? with
  | none => rfl
  | some handle =>
    by_cases ho : number = other <;> simp [ho, h]

/-- A cancellation changes no entry and no holder. -/
theorem live?_cancel (registry : Registry) (id other : RequestId) :
    (registry.cancel id).2.live? other = registry.live? other := by
  unfold cancel
  split
  · next target _ =>
    exact live?_congr (registry.modify target fun h => { h with cancelled := true }) registry rfl
      (holders_modify fun _ => rfl) other
  · rfl

/-- A cancellation keeps a registry sound. -/
theorem Sound.cancel {registry : Registry} (h : registry.Sound) (id : RequestId) :
    (registry.cancel id).2.Sound := by
  unfold Registry.cancel
  split
  · next target _ =>
    intro other number hentry
    obtain ⟨handle, hh, hid, hone⟩ := h other number hentry
    simp only [modify, List.getElem?_modify, hh, Option.map_eq_map, Option.map_some]
    by_cases ht : target = number
    · exact ⟨{ handle with cancelled := true }, by simp [ht], hid, hone⟩
    · exact ⟨handle, by simp [ht], hid, hone⟩
  · exact h

/-- The cancellation of everything changes no entry and no holder. -/
theorem live?_cancelSession (registry : Registry) (other : RequestId) :
    registry.cancelSession.live? other = registry.live? other := by
  refine live?_congr registry.cancelSession registry rfl (fun number => ?_) other
  simp only [holders, cancelSession, List.getElem?_map, Option.map_map]
  rfl

/-- The cancellation of everything keeps a registry sound. -/
theorem Sound.cancelSession {registry : Registry} (h : registry.Sound) :
    registry.cancelSession.Sound := by
  intro other number hentry
  obtain ⟨handle, hh, hid, hone⟩ := h other number hentry
  exact ⟨{ handle with cancelled := true }, by simp [Registry.cancelSession, hh], hid, hone⟩

/-! ## Ending requests -/

/-- The registry after the end of a request: the entry is forgotten and the
handle let go. -/
def ended (registry : Registry) (id : RequestId) (number : Nat) : Registry :=
  (registry.complete id).letGo number

/-- Whether everything is cancelled is not up to a single request. -/
theorem sessionCancelled_ended (registry : Registry) (id : RequestId) (number : Nat) :
    (registry.ended id number).sessionCancelled = registry.sessionCancelled := by
  unfold ended complete
  split
  · split <;> rfl
  · rfl

/-- Where the handle is live, the end of its request removes the entry. -/
theorem ended_of_live {registry : Registry} (h : registry.Sound) {id : RequestId} {number : Nat}
    (hl : registry.live? id = some number) :
    registry.ended id number =
      { registry with
        handles := registry.handles.modify number fun h => { h with holders := h.holders - 1 }
        entries := without registry.entries id } := by
  obtain ⟨handle, hh, -, hone⟩ := h.handle_of_live hl
  have hle : registry.holders number ≤ 1 := by
    simp only [holders, hh, Option.map_some, Option.getD_some]
    omega
  simp only [ended, complete, (live?_eq_some_iff.mp hl).1, hle, if_true, letGo, modify]

/-- The end of a request keeps a registry sound. -/
theorem Sound.ended {registry : Registry} (h : registry.Sound) {id : RequestId} {number : Nat}
    (hl : registry.live? id = some number) : (registry.ended id number).Sound := by
  rw [ended_of_live h hl]
  intro other target hentry
  dsimp only at hentry ⊢
  rw [lookup_without] at hentry
  split at hentry
  · exact absurd hentry (by simp)
  · obtain ⟨handle, hh, hid, hone⟩ := h other target hentry
    simp only [List.getElem?_modify, hh, Option.map_eq_map, Option.map_some]
    by_cases ht : number = target
    · exact ⟨{ handle with holders := handle.holders - 1 }, by simp [ht], hid,
        by dsimp only; omega⟩
    · exact ⟨handle, by simp [ht], hid, hone⟩

/-- After the end of a request its identifier is free; all others have what they
had. -/
theorem live?_ended {registry : Registry} (h : registry.Sound) {id : RequestId} {number : Nat}
    (hl : registry.live? id = some number) (other : RequestId) :
    (registry.ended id number).live? other =
      if other = id then none else registry.live? other := by
  obtain ⟨handle, hh, hid, -⟩ := h.handle_of_live hl
  rw [ended_of_live h hl]
  unfold live?
  dsimp only
  rw [lookup_without]
  split
  · rfl
  · next ho =>
    cases hentry : registry.entries.lookup other with
    | none => rfl
    | some target =>
      -- The handle of the ended request was made for it, so no other entry refers to it.
      have hne : number ≠ target := by
        rintro rfl
        obtain ⟨handle', hh', hid', -⟩ := h other number hentry
        rw [hh] at hh'
        obtain rfl := Option.some.inj hh'
        exact ho (hid'.symm.trans hid)
      have hsame : (registry.handles.modify number fun h => { h with holders := h.holders - 1 })[
          target]? = registry.handles[target]? := by
        simp only [List.getElem?_modify, hne, if_false, Option.map_eq_map, Option.map_id_fun', id_eq]
      simp only [Option.filter, isLive, holders, hsame]
      rfl

/-! ## Cancelled sessions -/

/-- Once the whole session was cancelled, every request is cancelled. -/
def Thorough (registry : Registry) : Prop :=
  registry.sessionCancelled = true → ∀ handle ∈ registry.handles, handle.cancelled = true

namespace Thorough

variable {registry : Registry}

/-- A handle of a session that was cancelled is cancelled. -/
theorem isCancelled (h : registry.Thorough) (all : registry.sessionCancelled = true)
    {number : Nat} {handle : Handle} (hh : registry.handles[number]? = some handle) :
    registry.isCancelled number = true := by
  simp only [Registry.isCancelled, hh, Option.map_some, Option.getD_some]
  exact h all handle (List.mem_of_getElem? hh)

/-- No handle is changed back. -/
theorem modify (h : registry.Thorough) (number : Nat) {change : Handle → Handle}
    (hc : ∀ handle, handle.cancelled = true → (change handle).cancelled = true) :
    (registry.modify number change).Thorough := by
  intro all handle hmem
  obtain ⟨index, hindex⟩ := List.mem_iff_getElem?.mp hmem
  simp only [Registry.modify, List.getElem?_modify, Option.map_eq_map,
    Option.map_eq_some_iff] at hindex
  obtain ⟨old, hold, rfl⟩ := hindex
  have told := h all old (List.mem_of_getElem? hold)
  split
  · exact hc old told
  · exact told

/-- A request that is registered late is cancelled from the beginning. -/
theorem registered (h : registry.Thorough) (id : RequestId) : (registry.registered id).Thorough := by
  intro all handle hmem
  rcases List.mem_append.mp hmem with hold | hnew
  · exact h all handle hold
  · rw [List.mem_singleton.mp hnew]
    exact all

/-- The cancellation of a request takes none back. -/
theorem cancel (h : registry.Thorough) (id : RequestId) : (registry.cancel id).2.Thorough := by
  unfold Registry.cancel
  split
  · exact h.modify _ fun _ _ => rfl
  · exact h

/-- The cancellation of everything reaches every request. -/
theorem cancelSession (registry : Registry) : registry.cancelSession.Thorough := by
  intro _ handle hmem
  obtain ⟨old, -, rfl⟩ := List.mem_map.mp hmem
  rfl

/-- The end of a request takes no cancellation back. -/
theorem ended (h : registry.Thorough) (id : RequestId) (number : Nat) :
    (registry.ended id number).Thorough := by
  have completed : (registry.complete id).Thorough := by
    unfold complete
    split
    · split <;> exact h
    · exact h
  exact completed.modify number fun _ hc => hc

end Thorough

/-! ## Handles ever made -/

/-- The identifiers that handles were made for, in order. -/
def issued (registry : Registry) : List RequestId :=
  registry.handles.map Handle.id

/-- A handle that is changed stays the handle of its request. -/
theorem issued_modify (registry : Registry) (number : Nat) {change : Handle → Handle}
    (h : ∀ handle, (change handle).id = handle.id) :
    (registry.modify number change).issued = registry.issued := by
  refine List.ext_getElem? fun index => ?_
  simp only [issued, modify, List.getElem?_map, List.getElem?_modify]
  cases registry.handles[index]? with
  | none => split <;> rfl
  | some handle => split <;> simp [h]

/-- A registration makes one more handle. -/
theorem issued_registered (registry : Registry) (id : RequestId) :
    (registry.registered id).issued = registry.issued ++ [id] :=
  List.map_append

/-- The cancellation of a request makes no handle. -/
theorem issued_cancel (registry : Registry) (id : RequestId) :
    (registry.cancel id).2.issued = registry.issued := by
  unfold cancel
  split
  · exact issued_modify registry _ fun _ => rfl
  · rfl

/-- The cancellation of everything makes no handle. -/
theorem issued_cancelSession (registry : Registry) :
    registry.cancelSession.issued = registry.issued := by
  simp only [issued, cancelSession, List.map_map]
  rfl

/-- The end of a request forgets no handle. -/
theorem issued_ended (registry : Registry) (id : RequestId) (number : Nat) :
    (registry.ended id number).issued = registry.issued := by
  have completed : (registry.complete id).issued = registry.issued := by
    unfold complete
    split
    · split <;> rfl
    · rfl
  unfold ended letGo
  rw [issued_modify, completed]
  exact fun _ => rfl

end LspGateway.Registry
