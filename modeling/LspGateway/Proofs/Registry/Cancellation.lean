import LspGateway.Proofs.Registry.Refinement
import LspGateway.Proofs.Registry.Standing
import LspGateway.Registry.Token
import Mathlib.Data.List.Induction

/-!
# Which requests are cancelled

A handle is cancelled by the cancellation of the session, whenever that was, and by a
cancellation of its identifier at a time when it was the handle of the outstanding request;
by nothing else, and for good. A token that was taken from it tells the same, also when the
request has its answer and nobody holds the handle any more.
-/

namespace LspGateway.Registry

namespace Holders

variable {holders : Holders}

/-- Whoever holds handles under names changes nothing of what they stand for. -/
theorem standing_keep (holders : Holders) (name : String) (handle : Nat) :
    (holders.keep name handle).2.registry.standing = holders.registry.standing := by
  unfold keep
  dsimp only
  split
  · exact standing_modify fun _ => ⟨rfl, rfl⟩
  · rfl

/-- What a command makes of the standing of handles. -/
def restand (registry : Registry) : Command → List (RequestId × Bool)
  | .register id _ =>
    match registry.live? id with
    | some _ => registry.standing
    | .none => registry.standing ++ [(id, registry.sessionCancelled)]
  | .cancel id =>
    match registry.live? id with
    | some number => registry.standing.modify number fun told => (told.1, true)
    | .none => registry.standing
  | .cancelSession => registry.standing.map fun told => (told.1, true)
  | _ => registry.standing

/-- Commands change the standing of handles as told. -/
theorem standing_step (holders : Holders) (command : Command) :
    (holders.step command).2.registry.standing = restand holders.registry command := by
  cases command with
  | register id name =>
    cases live : holders.registry.live? id with
    | some number => simp [restand, live, step_register_of_live live]
    | none =>
      rw [step_register_of_free live, standing_keep]
      simp [restand, live, standing, registered]
  | share other name =>
    cases holds : holders.held.lookup other with
    | none => rw [step_of_unheld holders _ rfl holds]; rfl
    | some handle =>
      have held : (holders.registry.hold handle).standing = holders.registry.standing :=
        standing_modify fun _ => ⟨rfl, rfl⟩
      have kept := standing_keep { holders with registry := holders.registry.hold handle } name
        handle
      rw [step_share holders holds]
      exact kept.trans held
  | watch other name =>
    cases holds : holders.held.lookup other with
    | none => rw [step_of_unheld holders _ rfl holds]; rfl
    | some handle => rw [step_watch holders holds]; rfl
  | drop name =>
    cases holds : holders.held.lookup name with
    | none => rw [step_of_unheld holders _ rfl holds]; rfl
    | some handle =>
      have left : (holders.registry.letGo handle).standing = holders.registry.standing :=
        standing_modify fun _ => ⟨rfl, rfl⟩
      rw [step_drop holders holds]
      exact left
  | complete id => exact standing_complete holders.registry id
  | cancel id =>
    have told : (holders.step (.cancel id)).2.registry = (holders.registry.cancel id).2 := rfl
    rw [told]
    cases live : holders.registry.live? id with
    | none => simp [restand, Registry.cancel, live]
    | some number =>
      simpa [restand, Registry.cancel, live] using
        standing_modify_cancelled holders.registry number
  | cancelSession => simp [restand, step, run, standing, Registry.cancelSession]
  | count => rfl

/-- Whoever holds handles under names does not cancel the session. -/
theorem sessionCancelled_keep (holders : Holders) (name : String) (handle : Nat) :
    (holders.keep name handle).2.registry.sessionCancelled = holders.registry.sessionCancelled := by
  unfold keep
  dsimp only
  split <;> rfl

/-- The session is cancelled by nothing but its cancellation. -/
theorem sessionCancelled_step (holders : Holders) (command : Command) :
    (holders.step command).2.registry.sessionCancelled = true ↔
      holders.registry.sessionCancelled = true ∨ command = .cancelSession := by
  cases command with
  | register id name =>
    cases live : holders.registry.live? id with
    | some number => simp [step_register_of_live live]
    | none => simp [step_register_of_free live, sessionCancelled_keep, registered]
  | share other name =>
    cases holds : holders.held.lookup other with
    | none => simp [step_of_unheld holders (.share other name) rfl holds]
    | some handle => simp [step_share holders holds, sessionCancelled_keep, hold, modify]
  | watch other name =>
    cases holds : holders.held.lookup other with
    | none => simp [step_of_unheld holders (.watch other name) rfl holds]
    | some handle => simp [step_watch holders holds]
  | drop name =>
    cases holds : holders.held.lookup name with
    | none => simp [step_of_unheld holders (.drop name) rfl holds]
    | some handle => simp [step_drop holders holds, letGo, modify]
  | complete id =>
    have same : (holders.registry.complete id).sessionCancelled =
        holders.registry.sessionCancelled := by
      unfold Registry.complete
      split
      · split <;> rfl
      · rfl
    simp [step, run, same]
  | cancel id =>
    have same : (holders.registry.cancel id).2.sessionCancelled =
        holders.registry.sessionCancelled := by
      unfold Registry.cancel
      split <;> rfl
    simp [step, run, same]
  | cancelSession => simp [step, run, Registry.cancelSession]
  | count => simp [step, run, Registry.outstanding, Registry.prune]

/-- No handle is forgotten, and none becomes that of another request. -/
theorem issued_step (holders : Holders) (command : Command) :
    holders.registry.issued <+: (holders.step command).2.registry.issued := by
  rw [issued_eq_standing, issued_eq_standing, standing_step]
  cases command with
  | register id name =>
    cases live : holders.registry.live? id with
    | some number => simp [restand, live]
    | none => simp [restand, live]
  | cancel id =>
    cases live : holders.registry.live? id with
    | some number =>
      have same :
          (holders.registry.standing.modify number fun told => (told.1, true)).map Prod.fst =
            holders.registry.standing.map Prod.fst := by
        refine List.ext_getElem? fun index => ?_
        simp only [List.getElem?_map, List.getElem?_modify]
        cases holders.registry.standing[index]? with
        | none => rfl
        | some told => by_cases at_number : number = index <;> simp [at_number]
      simp [restand, live, same]
    | none => simp [restand, live]
  | cancelSession =>
    have same : (holders.registry.standing.map fun told => (told.1, true)).map Prod.fst =
        holders.registry.standing.map Prod.fst :=
      List.map_map
    exact ⟨[], (List.append_nil _).trans same.symm⟩
  | share other name => exact List.prefix_refl _
  | watch other name => exact List.prefix_refl _
  | drop name => exact List.prefix_refl _
  | complete id => exact List.prefix_refl _
  | count => exact List.prefix_refl _

/-- One more command. -/
theorem following_concat (commands : List Command) (command : Command) :
    following (commands ++ [command]) = ((following commands).step command).2 :=
  after_concat step none commands command

/-- Handles stay those of their requests whatever commands follow. -/
theorem issued_following (earlier later : List Command) :
    (following earlier).registry.issued <+: (following (earlier ++ later)).registry.issued := by
  induction later using List.reverseRecOn with
  | nil => simp
  | append_singleton later command ih =>
    rw [← List.append_assoc, following_concat]
    exact ih.trans (issued_step _ command)

/-- The session is cancelled once it was cancelled. -/
theorem sessionCancelled_following (commands : List Command) :
    (following commands).registry.sessionCancelled = true ↔ .cancelSession ∈ commands := by
  induction commands using List.reverseRecOn with
  | nil => simp [following, after, none, empty]
  | append_singleton commands command ih =>
    rw [following_concat, sessionCancelled_step, ih]
    simp [eq_comm]

end Holders

/-! ## What cancels a request -/

/-- Among the commands is the cancellation of the session, or a cancellation of the request
that was given while the request was outstanding with this handle. -/
def Struck (commands : List Holders.Command) (number : Nat) (id : RequestId) : Prop :=
  .cancelSession ∈ commands ∨
    ∃ earlier later, commands = earlier ++ .cancel id :: later ∧
      (rolled earlier).live.lookup id = some number

/-- What one more command cancels. -/
theorem struck_concat {commands : List Holders.Command} {command : Holders.Command} {number : Nat}
    {id : RequestId} :
    Struck (commands ++ [command]) number id ↔
      Struck commands number id ∨ command = .cancelSession ∨
        command = .cancel id ∧ (rolled commands).live.lookup id = some number := by
  constructor
  · rintro (all | ⟨earlier, later, same, live⟩)
    · rcases List.mem_append.mp all with before | last
      · exact .inl (.inl before)
      · exact .inr (.inl (List.mem_singleton.mp last).symm)
    · -- The cancellation is the last command or it is followed by that.
      rcases List.eq_nil_or_concat later with rfl | ⟨rest, last, rfl⟩
      · obtain ⟨rfl, final⟩ := List.append_inj' same rfl
        exact .inr (.inr ⟨by simpa using final, live⟩)
      · rw [List.concat_eq_append, ← List.cons_append, ← List.append_assoc] at same
        obtain ⟨before, -⟩ := List.append_inj' same rfl
        exact .inl (.inr ⟨earlier, rest, before, live⟩)
  · rintro ((all | ⟨earlier, later, rfl, live⟩) | rfl | ⟨rfl, live⟩)
    · exact .inl (List.mem_append_left _ all)
    · exact .inr ⟨earlier, later ++ [command], by simp, live⟩
    · exact .inl (by simp)
    · exact .inr ⟨commands, [], rfl, live⟩

/-- A handle on the roll was made before. -/
theorem made_of_struck {commands earlier later : List Holders.Command} {number : Nat}
    {id : RequestId} (same : commands = earlier ++ .cancel id :: later)
    (live : (rolled earlier).live.lookup id = some number) :
    (Holders.following commands).registry.issued[number]? = some id := by
  have found : (Holders.following earlier).registry.live? id = some number :=
    (live?_following earlier id).trans live
  have named := (Holders.counted_following earlier).filed.issued_of_live found
  obtain ⟨rest, longer⟩ := Holders.issued_following earlier (.cancel id :: later)
  rw [same, ← longer, List.getElem?_append_left (List.getElem?_eq_some_iff.mp named).1, named]

/-- The request of a handle is the one that it stands for. -/
theorem issued_of_standing {registry : Registry} {number : Nat} {id : RequestId} {told : Bool}
    (stands : registry.standing[number]? = some (id, told)) : registry.issued[number]? = some id := by
  rw [issued_eq_standing, List.getElem?_map, stands]
  rfl

/-- The handle of a new request is cancelled if the session was. -/
theorem told_of_registered {commands : List Holders.Command} {other id : RequestId} {number : Nat}
    {told : Bool}
    (stands : ((Holders.following commands).registry.standing ++
      [(other, (Holders.following commands).registry.sessionCancelled)])[number]? = some (id, told))
    (new : (Holders.following commands).registry.standing.length ≤ number) :
    told = true ↔ Struck commands number id := by
  rw [List.getElem?_append_right new, List.getElem?_singleton] at stands
  have same : (Holders.following commands).registry.sessionCancelled = told := by
    split at stands
    · exact congrArg Prod.snd (Option.some.inj stands)
    · exact absurd stands (by simp)
  rw [← same, Holders.sessionCancelled_following]
  refine ⟨.inl, ?_⟩
  rintro (all | ⟨earlier, later, split, live⟩)
  · exact all
  · -- No command before can have been about a handle that was just made.
    have made := (List.getElem?_eq_some_iff.mp (made_of_struck split live)).1
    rw [issued_eq_standing, List.length_map] at made
    exact absurd made (Nat.not_lt.mpr new)

/-- The handle that a cancellation is about is cancelled, and no other. -/
theorem told_of_cancelled {commands : List Holders.Command} {other id : RequestId}
    {target number : Nat} {told : Bool}
    (live : (Holders.following commands).registry.live? other = some target)
    (stands : ((Holders.following commands).registry.standing.modify target fun told =>
      (told.1, true))[number]? = some (id, told)) :
    ∃ before, (Holders.following commands).registry.standing[number]? = some (id, before) ∧
      (told = true ↔
        before = true ∨ other = id ∧ (rolled commands).live.lookup id = some number) := by
  have named := (Holders.counted_following commands).filed.issued_of_live live
  rw [live?_following] at live
  rw [List.getElem?_modify, Option.map_eq_map] at stands
  by_cases same : target = number
  · subst same
    simp only [if_true, Option.map_eq_some_iff] at stands
    obtain ⟨⟨own, before⟩, stood, cancelled⟩ := stands
    obtain ⟨rfl, rfl⟩ := Prod.mk.inj cancelled
    have request : other = own := Option.some.inj (named.symm.trans (issued_of_standing stood))
    exact ⟨before, stood, by simp [← request, live]⟩
  · simp only [same, if_false, Option.map_id_fun', id_eq] at stands
    refine ⟨told, stands, ?_⟩
    have idle : ¬(other = id ∧ (rolled commands).live.lookup id = some number) := by
      rintro ⟨rfl, found⟩
      exact same (Option.some.inj (live.symm.trans found))
    rw [or_iff_left idle]

/-- A handle is cancelled if it was struck. -/
theorem standing_following (commands : List Holders.Command) {number : Nat} {id : RequestId}
    {told : Bool}
    (stands : (Holders.following commands).registry.standing[number]? = some (id, told)) :
    told = true ↔ Struck commands number id := by
  induction commands using List.reverseRecOn generalizing told with
  | nil => simp [Holders.following, after, Holders.none, empty, standing] at stands
  | append_singleton commands command ih =>
    rw [Holders.following_concat, Holders.standing_step] at stands
    rw [struck_concat]
    cases command with
    | register other name =>
      have idle : ¬(Holders.Command.register other name = .cancelSession ∨
          Holders.Command.register other name = .cancel id ∧
            (rolled commands).live.lookup id = some number) := by
        simp
      rw [or_iff_left idle]
      cases live : (Holders.following commands).registry.live? other with
      | some taken =>
        simp only [Holders.restand, live] at stands
        exact ih stands
      | none =>
        simp only [Holders.restand, live] at stands
        rcases Nat.lt_or_ge number (Holders.following commands).registry.standing.length with
          old | new
        · rw [List.getElem?_append_left old] at stands
          exact ih stands
        · exact told_of_registered stands new
    | cancel other =>
      cases live : (Holders.following commands).registry.live? other with
      | some target =>
        simp only [Holders.restand, live] at stands
        obtain ⟨before, stood, same⟩ := told_of_cancelled live stands
        rw [same, ih stood]
        simp
      | none =>
        simp only [Holders.restand, live] at stands
        have free : (rolled commands).live.lookup other = none := by
          rw [← live?_following, live]
        have idle : ¬(Holders.Command.cancel other = .cancelSession ∨
            Holders.Command.cancel other = .cancel id ∧
              (rolled commands).live.lookup id = some number) := by
          rintro (all | ⟨same, live⟩)
          · exact absurd all (by simp)
          · rw [← Holders.Command.cancel.inj same, free] at live
            exact absurd live (by simp)
        rw [or_iff_left idle]
        exact ih stands
    | cancelSession =>
      simp only [Holders.restand, List.getElem?_map, Option.map_eq_some_iff] at stands
      obtain ⟨before, -, same⟩ := stands
      have struck : told = true := (congrArg Prod.snd same).symm
      simp [struck]
    | share other name => simp [ih stands]
    | watch other name => simp [ih stands]
    | drop name => simp [ih stands]
    | complete other => simp [ih stands]
    | count => simp [ih stands]

/-! ## Tokens -/

section Tokens

/-- What is watched under a name stays, whatever is done but to watch something else there. -/
theorem Holders.watched_step (holders : Holders) {command : Holders.Command} {name : String}
    (others : ∀ other, command ≠ .watch other name) :
    (holders.step command).2.watched.lookup name = holders.watched.lookup name := by
  cases command with
  | register id taken =>
    cases live : holders.registry.live? id with
    | some number => rw [Holders.step_register_of_live live]
    | none => rw [Holders.step_register_of_free live]; rfl
  | share other taken =>
    cases holds : holders.held.lookup other with
    | none => rw [Holders.step_of_unheld holders _ rfl holds]
    | some handle => rw [Holders.step_share holders holds]; rfl
  | watch other taken =>
    have hne : name ≠ taken := fun same => others other (by rw [same])
    have other_name : (name == taken) = false := by simpa using hne
    cases holds : holders.held.lookup other with
    | none => rw [Holders.step_of_unheld holders _ rfl holds]
    | some handle =>
      simp [Holders.step_watch holders holds, Holders.put, List.lookup_cons, other_name,
        lookup_filter_ne, hne]
  | drop taken =>
    cases holds : holders.held.lookup taken with
    | none => rw [Holders.step_of_unheld holders _ rfl holds]
    | some handle => rw [Holders.step_drop holders holds]
  | complete id => rfl
  | cancel id => rfl
  | cancelSession => rfl
  | count => rfl

/-- A token that was taken from a handle shows that handle until another token is kept under
its name. -/
theorem token?_following {earlier later : List Holders.Command} {other name : String} {number : Nat}
    (held : (rolled earlier).held.lookup other = some number)
    (kept : ∀ command ∈ later, ∀ other, command ≠ .watch other name) :
    (Holders.following (earlier ++ .watch other name :: later)).token? name = some ⟨number⟩ := by
  have watched : (Holders.following (earlier ++ .watch other name :: later)).watched.lookup name =
      some number := by
    induction later using List.reverseRecOn with
    | nil =>
      have holds : (Holders.following earlier).held.lookup other = some number := by
        have same : (Holders.following earlier).held = (rolled earlier).held :=
          congrArg Roll.held (Holders.roll_following earlier)
        rw [same, held]
      rw [Holders.following_concat, Holders.step_watch _ holds]
      exact List.lookup_cons_self
    | append_singleton later command ih =>
      rw [← List.cons_append, ← List.append_assoc, Holders.following_concat,
        Holders.watched_step _ (kept command (by simp))]
      exact ih fun before listed => kept before (by simp [listed])
  unfold Holders.token?
  rw [watched]
  rfl

end Tokens

/-! ## The cancellation of requests -/

/-- Requests are cancelled as commands have it, and tokens tell so. -/
structure CancelledAsTold (commands : List Holders.Command) : Prop where
  /-- Every handle that was made for a registered request stays the handle of that request. -/
  registered : ∀ earlier later id name, commands = earlier ++ .register id name :: later →
    (rolled earlier).live.lookup id = none →
    (Holders.following commands).registry.issued[(rolled earlier).made]? = some id
  /-- A handle is cancelled if the session was cancelled at any time, or its request while the
  handle was that of the outstanding request. -/
  exactly : ∀ number, (Holders.following commands).registry.isCancelled number = true ↔
    ∃ id, (Holders.following commands).registry.issued[number]? = some id ∧
      Struck commands number id
  /-- A token that was taken from a handle agrees with it, whatever became of the handle. -/
  tokens : ∀ earlier later other name number, commands = earlier ++ .watch other name :: later →
    (rolled earlier).held.lookup other = some number →
    (∀ command ∈ later, ∀ other, command ≠ .watch other name) →
    ∃ token, (Holders.following commands).token? name = some token ∧
      token.isCancelled (Holders.following commands).registry =
        (Holders.following commands).registry.isCancelled number ∧
      token.check (Holders.following commands).registry =
        (if (Holders.following commands).registry.isCancelled number then .error .cancelled
        else .ok ()) ∧
      (token.isPending (Holders.following commands).registry = true ↔
        (Holders.following commands).registry.isCancelled number = false)
  /-- The cancellation of a request cancels its handle and no other. -/
  sparing : ∀ id number,
    (Holders.following (commands ++ [.cancel id])).registry.isCancelled number =
      ((Holders.following commands).registry.isCancelled number ||
        (rolled commands).live.lookup id == some number)
  /-- No further commands take a cancellation back. -/
  lasting : ∀ later number, (Holders.following commands).registry.isCancelled number = true →
    (Holders.following (commands ++ later)).registry.isCancelled number = true

/-- The handle made for a registered request stays the handle of that request. -/
theorem issued_of_registered {earlier : List Holders.Command} {id : RequestId}
    (free : (rolled earlier).live.lookup id = none) (name : String)
    (later : List Holders.Command) :
    (Holders.following (earlier ++ .register id name :: later)).registry.issued[
      (rolled earlier).made]? = some id := by
  have made : (rolled earlier).made = (Holders.following earlier).registry.issued.length := by
    have same : (rolled earlier).made = (Holders.following earlier).registry.handles.length :=
      congrArg Roll.made (Holders.roll_following earlier).symm
    rw [same, issued, List.length_map]
  have live : (Holders.following earlier).registry.live? id = none :=
    (live?_following earlier id).trans free
  have issued : (Holders.following (earlier ++ [.register id name])).registry.issued =
      (Holders.following earlier).registry.issued ++ [id] := by
    rw [Holders.following_concat, issued_eq_standing, Holders.standing_step, issued_eq_standing]
    simp [Holders.restand, live]
  obtain ⟨rest, longer⟩ :=
    Holders.issued_following (earlier ++ [.register id name]) later
  rw [List.append_assoc, List.singleton_append] at longer
  rw [← longer, issued, made]
  simp

/-- A handle is cancelled exactly if it was struck. -/
theorem isCancelled_following (commands : List Holders.Command) (number : Nat) :
    (Holders.following commands).registry.isCancelled number = true ↔
      ∃ id, (Holders.following commands).registry.issued[number]? = some id ∧
        Struck commands number id := by
  rw [isCancelled_eq_true_iff]
  constructor
  · rintro ⟨id, stands⟩
    exact ⟨id, issued_of_standing stands, (standing_following commands stands).mp rfl⟩
  · rintro ⟨id, made, struck⟩
    rw [issued_eq_standing, List.getElem?_map, Option.map_eq_some_iff] at made
    obtain ⟨⟨own, told⟩, stands, rfl⟩ := made
    have cancelled : told = true := (standing_following commands stands).mpr struck
    exact ⟨own, cancelled ▸ stands⟩

/-- What strikes a handle is not undone by later commands. -/
theorem Struck.append {commands : List Holders.Command} {number : Nat} {id : RequestId}
    (struck : Struck commands number id) (later : List Holders.Command) :
    Struck (commands ++ later) number id := by
  rcases struck with all | ⟨before, rest, rfl, live⟩
  · exact .inl (List.mem_append_left later all)
  · exact .inr ⟨before, rest ++ later, by simp, live⟩

/-- A handle is cancelled by the cancellation of the session and by that of its own request,
by nothing else, and for good; its tokens tell the same. -/
theorem cancelled_as_told (commands : List Holders.Command) : CancelledAsTold commands := by
  refine
    { registered := ?_
      exactly := isCancelled_following commands
      tokens := ?_
      sparing := ?_
      lasting := ?_ }
  · rintro earlier later id name rfl free
    exact issued_of_registered free name later
  · rintro earlier later other name number rfl held kept
    refine ⟨⟨number⟩, token?_following held kept, rfl, rfl, ?_⟩
    simp [Token.isPending, Token.isCancelled]
  · intro id number
    have told : (Holders.following (commands ++ [.cancel id])).registry =
        ((Holders.following commands).registry.cancel id).2 := by
      rw [Holders.following_concat]
      rfl
    rw [told, isCancelled_cancel, live?_following]
  · intro later number cancelled
    rw [isCancelled_following] at cancelled ⊢
    obtain ⟨id, made, struck⟩ := cancelled
    obtain ⟨rest, longer⟩ := Holders.issued_following commands later
    refine ⟨id, ?_, struck.append later⟩
    rw [← longer, List.getElem?_append_left (List.getElem?_eq_some_iff.mp made).1, made]

end LspGateway.Registry
