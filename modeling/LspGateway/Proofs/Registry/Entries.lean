import LspGateway.Proofs.Registry.Live
import Mathlib.Data.List.Nodup

/-!
# The live entries of a registry

A registry finds handles by entries, and entries outlive the handles that nobody holds any
more. What counts are the live ones. Here it is said what each operation does to the
holders of a handle and to the live entries, for registries whose handles may have any
number of holders.
-/

namespace LspGateway.Registry

variable {registry : Registry}

/-! ## Holders -/

/-- Whoever is held was made. -/
theorem lt_length_of_holders {number : Nat} (held : 0 < registry.holders number) :
    number < registry.handles.length := by
  by_contra unmade
  have none : registry.handles[number]? = none := List.getElem?_eq_none (Nat.le_of_not_lt unmade)
  simp [holders, none] at held

/-- A handle has one more holder once it is held. -/
theorem holders_hold {number : Nat} (made : number < registry.handles.length) (other : Nat) :
    (registry.hold number).holders other =
      registry.holders other + if other = number then 1 else 0 := by
  simp only [holders, hold, modify, List.getElem?_modify]
  by_cases ho : other = number
  · subst ho
    simp [made]
  · simp [Ne.symm ho, ho]

/-- A handle has one holder less once it is let go. -/
theorem holders_letGo (registry : Registry) (number other : Nat) :
    (registry.letGo number).holders other =
      registry.holders other - if other = number then 1 else 0 := by
  simp only [holders, letGo, modify, List.getElem?_modify]
  by_cases ho : other = number
  · subst ho
    cases registry.handles[other]? <;> simp
  · simp [Ne.symm ho, ho]

/-- A handle that was just made is held once. -/
theorem holders_registered (registry : Registry) (id : RequestId) (other : Nat) :
    (registry.registered id).holders other =
      registry.holders other + if other = registry.handles.length then 1 else 0 := by
  simp only [holders, registered, List.getElem?_append]
  by_cases ho : other < registry.handles.length
  · simp [ho, Nat.ne_of_lt ho]
  · by_cases heq : other = registry.handles.length
    · simp [heq]
    · have beyond : other - registry.handles.length ≠ 0 := by omega
      simp [ho, heq, beyond]

/-- That a request has its answer changes no handle. -/
theorem handles_complete (registry : Registry) (id : RequestId) :
    (registry.complete id).handles = registry.handles := by
  unfold complete
  split
  · split <;> rfl
  · rfl

/-- The cancellation of a request changes no holder. -/
theorem holders_cancel (registry : Registry) (id : RequestId) (other : Nat) :
    (registry.cancel id).2.holders other = registry.holders other := by
  unfold cancel
  split
  · next target _ =>
    change (registry.modify target fun h => { h with cancelled := true }).holders other = _
    refine holders_modify ?_ other
    exact fun _ => rfl
  · rfl

/-- The cancellation of a request makes and forgets no handle. -/
theorem length_cancel (registry : Registry) (id : RequestId) :
    (registry.cancel id).2.handles.length = registry.handles.length := by
  have same := congrArg List.length (issued_cancel registry id)
  simpa [issued] using same

/-- The cancellation of a request changes no entry. -/
theorem entries_cancel (registry : Registry) (id : RequestId) :
    (registry.cancel id).2.entries = registry.entries := by
  unfold cancel
  split <;> rfl

/-- The cancellation of everything changes no holder. -/
theorem holders_cancelSession (registry : Registry) (other : Nat) :
    registry.cancelSession.holders other = registry.holders other := by
  simp only [holders, cancelSession, List.getElem?_map, Option.map_map]
  rfl

/-! ## Entries -/

/-- A registry finds every handle under the identifier that it was made for, and under each
identifier one handle at most. -/
structure Filed (registry : Registry) : Prop where
  /-- No identifier has two entries. -/
  distinct : (registry.entries.map Prod.fst).Nodup
  /-- Entries refer to handles that were made for their identifiers. -/
  named : ∀ entry ∈ registry.entries, registry.issued[entry.2]? = some entry.1

/-- The entries whose handles are held. -/
def liveEntries (registry : Registry) : List (RequestId × Nat) :=
  registry.entries.filter fun entry => registry.isLive entry.2

/-- As many requests are outstanding as there are live entries. -/
theorem outstanding_eq (registry : Registry) :
    registry.outstanding.1 = registry.liveEntries.length :=
  rfl

/-- The look-up among pairs that are chosen by their values, where no key occurs twice. -/
theorem lookup_filter {entries : List (RequestId × Nat)} (distinct : (entries.map Prod.fst).Nodup)
    (keeps : Nat → Bool) (id : RequestId) :
    (entries.filter fun entry => keeps entry.2).lookup id = (entries.lookup id).filter keeps := by
  induction entries with
  | nil => rfl
  | cons entry rest ih =>
    obtain ⟨key, number⟩ := entry
    obtain ⟨fresh, others⟩ := List.nodup_cons.mp distinct
    have absent : rest.lookup key = none := by
      refine List.lookup_eq_none_iff.mpr fun pair hp => ?_
      have hne : key ≠ pair.1 := fun heq => fresh (List.mem_map.mpr ⟨pair, hp, heq.symm⟩)
      simpa using hne
    by_cases hid : id = key
    · subst hid
      cases hk : keeps number with
      | true => simp [hk, Option.filter]
      | false => simp [hk, ih others, absent, Option.filter]
    · have hne : (id == key) = false := by simpa using hid
      cases hk : keeps number with
      | true => simp [hk, List.lookup_cons, hne, ih others]
      | false => simp [hk, List.lookup_cons, hne, ih others]

/-- The live entry of an identifier leads to its live handle. -/
theorem Filed.lookup_liveEntries (h : registry.Filed) (id : RequestId) :
    registry.liveEntries.lookup id = registry.live? id :=
  lookup_filter h.distinct registry.isLive id

/-- No identifier has two live entries. -/
theorem Filed.distinct_liveEntries (h : registry.Filed) :
    (registry.liveEntries.map Prod.fst).Nodup :=
  h.distinct.sublist (List.filter_sublist.map Prod.fst)

/-- The identifiers of live entries are those with live handles. -/
theorem Filed.mem_liveEntries_iff (h : registry.Filed) {id : RequestId} :
    id ∈ registry.liveEntries.map Prod.fst ↔ (registry.live? id).isSome = true := by
  rw [← h.lookup_liveEntries, List.lookup_isSome_iff, List.mem_map]
  constructor
  · rintro ⟨entry, hmem, rfl⟩
    exact ⟨entry, hmem, beq_self_eq_true _⟩
  · rintro ⟨entry, hmem, hid⟩
    exact ⟨entry, hmem, (beq_iff_eq.mp hid).symm⟩

/-- A live handle was made for its identifier. -/
theorem Filed.issued_of_live (h : registry.Filed) {id : RequestId} {number : Nat}
    (live : registry.live? id = some number) : registry.issued[number]? = some id := by
  obtain ⟨before, after, hentries, -⟩ :=
    List.lookup_eq_some_iff.mp (live?_eq_some_iff.mp live).1
  exact h.named (id, number) (hentries ▸ List.mem_append_right before List.mem_cons_self)

/-- Registries with the same entries, whose handles have the same holders, have the same
live entries. -/
theorem liveEntries_congr {first second : Registry} (entries : first.entries = second.entries)
    (holders : ∀ number, first.holders number = second.holders number) :
    first.liveEntries = second.liveEntries := by
  unfold liveEntries
  rw [entries]
  exact List.filter_congr fun entry _ => by unfold isLive; rw [holders]

/-- Where handles have only lost holders, the live entries are those that are live still. -/
theorem liveEntries_of_le {first second : Registry} (entries : second.entries = first.entries)
    (fewer : ∀ number, second.holders number ≤ first.holders number) :
    second.liveEntries = first.liveEntries.filter fun entry => second.isLive entry.2 := by
  unfold liveEntries
  rw [entries, List.filter_filter]
  refine List.filter_congr fun entry _ => ?_
  have before : second.isLive entry.2 = true → first.isLive entry.2 = true := by
    have hle := fewer entry.2
    unfold isLive
    simp only [decide_eq_true_eq]
    omega
  cases hs : second.isLive entry.2 with
  | true => rw [before hs]; rfl
  | false => rfl

/-- The entry of an identifier without live handle makes no difference. -/
theorem Filed.filter_without (h : registry.Filed) {id : RequestId}
    (free : registry.live? id = none) :
    (without registry.entries id).filter (fun entry => registry.isLive entry.2) =
      registry.liveEntries := by
  unfold liveEntries without
  rw [List.filter_filter]
  refine List.filter_congr fun entry hmem => ?_
  cases hl : registry.isLive entry.2 with
  | false => rfl
  | true =>
    have hne : entry.1 ≠ id := by
      rintro rfl
      have listed : entry.1 ∈ registry.liveEntries.map Prod.fst :=
        List.mem_map_of_mem (List.mem_filter.mpr ⟨hmem, hl⟩)
      rw [h.mem_liveEntries_iff, free] at listed
      exact absurd listed (by simp)
    simpa using hne

/-! ## What becomes of the entries -/

/-- A registry without requests. -/
theorem Filed.empty : Registry.empty.Filed :=
  ⟨List.nodup_nil, fun _ h => absurd h List.not_mem_nil⟩

/-- With the same entries and handles for the same identifiers nothing changes. -/
theorem Filed.congr {first second : Registry} (h : first.Filed)
    (entries : second.entries = first.entries) (issued : second.issued = first.issued) :
    second.Filed := by
  refine ⟨entries ▸ h.distinct, fun entry hmem => ?_⟩
  rw [issued]
  exact h.named entry (entries ▸ hmem)

/-- Entries may be forgotten. -/
theorem Filed.forgotten (h : registry.Filed) (keeps : RequestId × Nat → Bool) :
    { registry with entries := registry.entries.filter keeps }.Filed :=
  ⟨h.distinct.sublist (List.filter_sublist.map Prod.fst),
    fun entry hmem => h.named entry (List.mem_filter.mp hmem).1⟩

/-- A request is registered. -/
theorem Filed.registered (h : registry.Filed) (id : RequestId) : (registry.registered id).Filed := by
  have others := h.forgotten fun entry => entry.1 != id
  refine ⟨List.nodup_cons.mpr ⟨?_, others.distinct⟩, fun entry hmem => ?_⟩
  · intro hmem
    obtain ⟨entry, hentry, hid⟩ := List.mem_map.mp hmem
    exact absurd hid (by simpa using (List.mem_filter.mp hentry).2)
  · rw [issued_registered]
    rcases List.mem_cons.mp hmem with rfl | hold
    · simp [issued]
    · have named := h.named entry (List.mem_filter.mp hold).1
      rwa [List.getElem?_append_left (List.getElem?_eq_some_iff.mp named).1]

/-- A request has its answer. -/
theorem Filed.complete (h : registry.Filed) (id : RequestId) : (registry.complete id).Filed := by
  unfold Registry.complete
  split
  · split
    · exact h.forgotten _
    · exact h
  · exact h

/-- A handle has another number of holders. -/
theorem Filed.modify (h : registry.Filed) (number : Nat) {change : Handle → Handle}
    (same : ∀ handle, (change handle).id = handle.id) : (registry.modify number change).Filed :=
  h.congr rfl (issued_modify registry number same)

/-- A request is cancelled. -/
theorem Filed.cancel (h : registry.Filed) (id : RequestId) : (registry.cancel id).2.Filed :=
  h.congr (entries_cancel registry id) (issued_cancel registry id)

/-- Everything is cancelled. -/
theorem Filed.cancelSession (h : registry.Filed) : registry.cancelSession.Filed :=
  h.congr rfl (issued_cancelSession registry)

/-! ## What becomes of the live entries -/

/-- A request that is registered has the first live entry. -/
theorem Filed.liveEntries_registered (h : registry.Filed) {id : RequestId}
    (free : registry.live? id = none) :
    (registry.registered id).liveEntries = (id, registry.handles.length) :: registry.liveEntries := by
  have new : (registry.registered id).isLive registry.handles.length = true := by
    simp [isLive, holders_registered]
  have old : (without registry.entries id).filter
      (fun entry => (registry.registered id).isLive entry.2) = registry.liveEntries := by
    rw [← h.filter_without free]
    refine List.filter_congr fun entry hmem => ?_
    have named := h.named entry (List.mem_filter.mp hmem).1
    have made : entry.2 < registry.handles.length := by
      simpa [issued] using (List.getElem?_eq_some_iff.mp named).1
    simp [isLive, holders_registered, Nat.ne_of_lt made]
  have first : (registry.registered id).liveEntries = (id, registry.handles.length) ::
      (without registry.entries id).filter fun entry => (registry.registered id).isLive entry.2 :=
    List.filter_cons_of_pos new
  rw [first, old]

/-- A handle that is held may be held by others as well. -/
theorem liveEntries_hold {number : Nat} (held : 0 < registry.holders number) :
    (registry.hold number).liveEntries = registry.liveEntries := by
  change List.filter _ registry.entries = List.filter _ registry.entries
  refine List.filter_congr fun entry _ => ?_
  unfold isLive
  rw [holders_hold (lt_length_of_holders held)]
  split
  · next heq => simp [heq, held]
  · rfl

/-- A request that has its answer loses its live entry, unless its handle has further
holders. -/
theorem Filed.liveEntries_complete (h : registry.Filed) (id : RequestId) :
    (registry.complete id).liveEntries =
      match registry.live? id with
      | some number =>
        if registry.holders number ≤ 1 then registry.liveEntries.filter fun entry => entry.1 != id
        else registry.liveEntries
      | none => registry.liveEntries := by
  have forgotten : ({ registry with entries := without registry.entries id } : Registry).liveEntries =
      registry.liveEntries.filter fun entry => entry.1 != id := by
    change List.filter _ (List.filter _ _) = List.filter _ (List.filter _ _)
    rw [List.filter_filter, List.filter_filter]
    exact List.filter_congr fun entry _ => Bool.and_comm _ _
  cases hl : registry.live? id with
  | some number =>
    simp only [Registry.complete, (live?_eq_some_iff.mp hl).1]
    split
    · exact forgotten
    · rfl
  | none =>
    simp only [Registry.complete]
    split
    · split
      · exact h.filter_without hl
      · rfl
    · rfl

end LspGateway.Registry
