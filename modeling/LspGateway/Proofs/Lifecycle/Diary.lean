import LspGateway.Session.Basic

/-!
# What the calls tell of a lifecycle

Whatever is asked of a lifecycle, and in whatever order, the answers tell where it stands. Each
call is noted with its answer in a diary; beside it stands the world that a termination tears
down. A call either changes nothing, or it is one of five steps, and from these everything else
is read off: which handshake counts, whether the shutdown was accepted, and who ended it.
-/

namespace LspGateway

/-- The steps from phase to phase. -/
inductive Phase.Follows : Phase → Phase → Prop where
  /-- The handshake is opened. -/
  | opening : Follows .uninitialized .initializing
  /-- The handshake is taken back. -/
  | abortion : Follows .initializing .uninitialized
  /-- The handshake is confirmed. -/
  | confirmation : Follows .initializing .initialized
  /-- The shutdown begins. -/
  | shutdown : Follows .initialized .shuttingDown
  /-- The end, from wherever. -/
  | ending {phase : Phase} (lasts : phase ≠ .exited) : Follows phase .exited

namespace Lifecycle

/-! ## Calls -/

/-- Ends the session and tears down what is around it, unless it has ended. -/
def terminateWith {world : Type} (lifecycle : Lifecycle) (ending : Ending)
    (teardown : world → world) (around : world) : Bool × Lifecycle × world :=
  match lifecycle.terminate? ending with
  | none => (false, lifecycle, around)
  | some next => (true, next, teardown around)

/-- A call: what is asked for, and what is to be done to the world should it be the end. -/
structure Call (world : Type) where
  /-- What is asked for. -/
  command : Command
  /-- The teardown that comes with a termination. -/
  teardown : world → world

/-- The end that a call asks for. -/
def Call.ending? {world : Type} (call : Call world) : Option Ending :=
  match call.command with
  | .terminate ending => some ending
  | _ => none

/-- A command and the answer that it got. -/
structure Note where
  /-- The command. -/
  command : Command
  /-- The answer. -/
  answer : Answer

/-- A lifecycle in its world, and the answers to everything that was asked of it. -/
structure Diary (world : Type) where
  /-- The lifecycle. -/
  lifecycle : Lifecycle
  /-- What is around it. -/
  around : world
  /-- The commands and their answers, in order. -/
  notes : List Note

section Calls

variable {world : Type}

/-- Carries out a call: the answer, the lifecycle and the world. -/
def carryOut (lifecycle : Lifecycle) (around : world) (call : Call world) :
    Answer × Lifecycle × world :=
  match call.command with
  | .terminate ending =>
    let (did, next, left) := lifecycle.terminateWith ending call.teardown around
    (.effect did, next, left)
  | command =>
    let (answer, next) := lifecycle.run command
    (answer, next, around)

/-- Carries out a call and notes the answer. -/
def Diary.call (diary : Diary world) (call : Call world) : Diary world :=
  let (answer, next, left) := diary.lifecycle.carryOut diary.around call
  ⟨next, left, diary.notes ++ [⟨call.command, answer⟩]⟩

/-- The diary of a new lifecycle, after some calls. -/
def Diary.ofCalls (around : world) (calls : List (Call world)) : Diary world :=
  calls.foldl Diary.call ⟨.fresh, around, []⟩

/-- A call is answered as its command is, whatever it tears down. -/
theorem carryOut_run (lifecycle : Lifecycle) (around : world) (call : Call world) :
    ((lifecycle.carryOut around call).1, (lifecycle.carryOut around call).2.1) =
      lifecycle.run call.command := by
  obtain ⟨command, teardown⟩ := call
  cases command with
  | terminate ending =>
    simp only [carryOut, terminateWith, run]
    cases lifecycle.terminate? ending <;> rfl
  | _ => rfl

end Calls

end Lifecycle

/-- A session ends as its lifecycle does, and what is torn down is all of the session. -/
theorem Session.terminate_eq {state pending : Type} (m : Engine state pending)
    (session : Session state pending) (ending : Ending) :
    session.terminate m ending =
      match session.lifecycle.terminateWith ending (Session.tearDown m) session with
      | (true, next, left) => (left.pass next).report [terminatedEntry ending]
      | (false, _, left) => left := by
  unfold terminate Lifecycle.terminateWith
  cases session.lifecycle.terminate? ending <;> rfl

namespace Lifecycle

/-! ## What a command comes to -/

/-- What a command comes to: the answer, and the lifecycle afterwards. -/
inductive Passes (lifecycle : Lifecycle) : Command → Answer → Lifecycle → Prop where
  /-- It is refused: only the handshake, the shutdown and requests are. -/
  | refused (command : Command) (error : Dispatch.Error)
      (asks : command = .beginHandshake ∨ command = .beginShutdown ∨
        ∃ method, command = .admitRequest method) :
      Passes lifecycle command (.refused error) lifecycle
  /-- There is no handshake to be taken back. -/
  | unopened (phase : lifecycle.phase ≠ .initializing) :
      Passes lifecycle .abortHandshake .silence lifecycle
  /-- There is no handshake to be confirmed. -/
  | unconfirmed (phase : lifecycle.phase ≠ .initializing) :
      Passes lifecycle .completeHandshake (.effect false) lifecycle
  /-- A request is admitted. -/
  | admitted (method : String) (phase : lifecycle.phase = .initialized) :
      Passes lifecycle (.admitRequest method) .accepted lifecycle
  /-- It has ended before. -/
  | late (ending : Ending) (phase : lifecycle.phase = .exited) :
      Passes lifecycle (.terminate ending) (.effect false) lifecycle
  /-- The handshake is opened. -/
  | opened (phase : lifecycle.phase = .uninitialized) :
      Passes lifecycle .beginHandshake .accepted { lifecycle with phase := .initializing }
  /-- The handshake is taken back. -/
  | aborted (phase : lifecycle.phase = .initializing) :
      Passes lifecycle .abortHandshake .silence { lifecycle with phase := .uninitialized }
  /-- The handshake is confirmed. -/
  | confirmed (phase : lifecycle.phase = .initializing) :
      Passes lifecycle .completeHandshake (.effect true) { lifecycle with phase := .initialized }
  /-- The shutdown begins. -/
  | shut (phase : lifecycle.phase = .initialized) :
      Passes lifecycle .beginShutdown .accepted
        { lifecycle with phase := .shuttingDown, shutdownRequested := true }
  /-- It ends. -/
  | ended (ending : Ending) (phase : lifecycle.phase ≠ .exited) :
      Passes lifecycle (.terminate ending) (.effect true)
        { lifecycle with phase := .exited, ending := some ending }

/-- Every command comes to one of these. -/
theorem run_passes (lifecycle : Lifecycle) (command : Command) :
    Passes lifecycle command (lifecycle.run command).1 (lifecycle.run command).2 := by
  cases command with
  | beginHandshake =>
    simp only [run, beginHandshake]
    split
    · next phase => exact .opened phase
    · exact .refused _ _ (.inl rfl)
    · exact .refused _ _ (.inl rfl)
  | abortHandshake =>
    simp only [run, abortHandshake]
    split
    · next phase => exact .aborted phase
    · next phase => exact .unopened phase
  | completeHandshake =>
    simp only [run, completeHandshake?]
    split
    · next phase => exact .confirmed phase
    · next phase => exact .unconfirmed phase
  | beginShutdown =>
    simp only [run, beginShutdown]
    split
    · next phase => exact .shut phase
    · exact .refused _ _ (.inr (.inl rfl))
    · exact .refused _ _ (.inr (.inl rfl))
    · exact .refused _ _ (.inr (.inl rfl))
  | admitRequest method =>
    simp only [run, admitRequest]
    split
    · next phase => exact .admitted method phase
    · exact .refused _ _ (.inr (.inr ⟨method, rfl⟩))
    · exact .refused _ _ (.inr (.inr ⟨method, rfl⟩))
    · exact .refused _ _ (.inr (.inr ⟨method, rfl⟩))
  | terminate ending =>
    simp only [run, terminate?]
    split
    · next phase => exact .late ending phase
    · next phase => exact .ended ending phase

/-- A command leaves the phase, or takes one of the steps. -/
theorem Passes.follows {before after : Lifecycle} {command : Command} {answer : Answer}
    (passes : Passes before command answer after) :
    after.phase = before.phase ∨ before.phase.Follows after.phase := by
  cases passes with
  | opened phase => exact .inr (phase ▸ .opening)
  | aborted phase => exact .inr (phase ▸ .abortion)
  | confirmed phase => exact .inr (phase ▸ .confirmation)
  | shut phase => exact .inr (phase ▸ .shutdown)
  | ended ending phase => exact .inr (.ending phase)
  | _ => exact .inl rfl

/-- The answer is an error, or that nothing came of the command. -/
def Answer.isRefusal : Answer → Bool
  | .refused _ | .effect false => true
  | .accepted | .effect true | .silence => false

/-- What is refused changes nothing. -/
theorem Passes.eq_of_refusal {before after : Lifecycle} {command : Command} {answer : Answer}
    (passes : Passes before command answer after) (refusal : answer.isRefusal = true) :
    after = before := by
  cases passes with
  | refused command error asks => rfl
  | unconfirmed phase => rfl
  | late ending phase => rfl
  | _ => cases refusal

/-! ## What the notes tell -/

/-- The shutdown was accepted. -/
def Note.isShutdown : Note → Bool
  | ⟨.beginShutdown, .accepted⟩ => true
  | _ => false

/-- The session was ended by this command. -/
def Note.isEnd : Note → Bool
  | ⟨.terminate _, .effect true⟩ => true
  | _ => false

/-- A handshake was accepted, and not taken back since. -/
def Opened (notes : List Note) : Prop :=
  ∃ earlier since, notes = earlier ++ ⟨.beginHandshake, .accepted⟩ :: since ∧
    ∀ note ∈ since, note.command ≠ .abortHandshake

/-- A handshake that was accepted and not taken back was confirmed, and neither the shutdown nor
the end was accepted since. -/
def Confirmed (notes : List Note) : Prop :=
  ∃ earlier since, notes = earlier ++ ⟨.completeHandshake, .effect true⟩ :: since ∧
    Opened earlier ∧ ∀ note ∈ since, note.isShutdown = false ∧ note.isEnd = false

/-- What is split off before an entry, when a further entry is added at the end: either that is
the entry, or it comes after it. -/
theorem concat_eq_append_cons {notes earlier since : List Note} {note found : Note} :
    notes ++ [note] = earlier ++ found :: since ↔
      (notes = earlier ∧ note = found ∧ since = []) ∨
        ∃ rest, since = rest ++ [note] ∧ notes = earlier ++ found :: rest := by
  constructor
  · intro same
    rcases List.eq_nil_or_concat since with rfl | ⟨rest, last, rfl⟩
    · obtain ⟨rfl, hlast⟩ := List.append_inj' same rfl
      exact .inl ⟨rfl, (List.cons.inj hlast).1, rfl⟩
    · rw [List.concat_eq_append, ← List.cons_append, ← List.append_assoc] at same
      obtain ⟨hrest, hlast⟩ := List.append_inj' same rfl
      obtain rfl := (List.cons.inj hlast).1
      exact .inr ⟨rest, List.concat_eq_append, hrest⟩
  · rintro (⟨rfl, rfl, rfl⟩ | ⟨rest, rfl, rfl⟩)
    · rfl
    · rw [List.append_assoc, List.cons_append]

/-- A further note opens a handshake, or leaves an open one unless it takes it back. -/
theorem opened_concat {notes : List Note} {note : Note} :
    Opened (notes ++ [note]) ↔
      note = ⟨.beginHandshake, .accepted⟩ ∨ Opened notes ∧ note.command ≠ .abortHandshake := by
  constructor
  · rintro ⟨earlier, since, same, spared⟩
    rcases concat_eq_append_cons.mp same with ⟨rfl, here, rfl⟩ | ⟨rest, rfl, rfl⟩
    · exact .inl here
    · obtain ⟨before, last⟩ := List.forall_mem_append.mp spared
      exact .inr ⟨⟨earlier, rest, rfl, before⟩, last note List.mem_cons_self⟩
  · rintro (rfl | ⟨⟨earlier, since, rfl, spared⟩, keeps⟩)
    · exact ⟨notes, [], rfl, fun _ none => absurd none List.not_mem_nil⟩
    · exact ⟨earlier, since ++ [note], by simp, List.forall_mem_append.mpr ⟨spared, by simpa⟩⟩

/-- A further note confirms an open handshake, or leaves a confirmed one unless it is the
shutdown or the end. -/
theorem confirmed_concat {notes : List Note} {note : Note} :
    Confirmed (notes ++ [note]) ↔
      Opened notes ∧ note = ⟨.completeHandshake, .effect true⟩ ∨
        Confirmed notes ∧ note.isShutdown = false ∧ note.isEnd = false := by
  constructor
  · rintro ⟨earlier, since, same, opened, spared⟩
    rcases concat_eq_append_cons.mp same with ⟨rfl, here, rfl⟩ | ⟨rest, rfl, rfl⟩
    · exact .inl ⟨opened, here⟩
    · obtain ⟨before, last⟩ := List.forall_mem_append.mp spared
      exact .inr ⟨⟨earlier, rest, rfl, opened, before⟩, last note List.mem_cons_self⟩
  · rintro (⟨opened, rfl⟩ | ⟨⟨earlier, since, rfl, opened, spared⟩, lasts⟩)
    · exact ⟨notes, [], rfl, opened, fun _ none => absurd none List.not_mem_nil⟩
    · exact ⟨earlier, since ++ [note], by simp, opened,
        List.forall_mem_append.mpr ⟨spared, by simpa⟩⟩

section Passes

variable {before after : Lifecycle} {command : Command} {answer : Answer} {notes : List Note}

/-- The shutdown was asked for if it is accepted, or was before. -/
theorem Passes.requested (passes : Passes before command answer after) :
    after.shutdownRequested = true ↔
      before.shutdownRequested = true ∨ Note.isShutdown ⟨command, answer⟩ = true := by
  cases passes with
  | refused command error asks =>
    rcases asks with rfl | rfl | ⟨method, rfl⟩ <;> simp [Note.isShutdown]
  | _ => simp [Note.isShutdown]

/-- After the shutdown there is only the end. -/
theorem Passes.late_of_requested (passes : Passes before command answer after)
    (late : before.shutdownRequested = true → before.phase = .shuttingDown ∨ before.phase = .exited)
    (requested : after.shutdownRequested = true) :
    after.phase = .shuttingDown ∨ after.phase = .exited := by
  cases passes with
  | opened phase => exact absurd (late requested) (by simp [phase])
  | aborted phase => exact absurd (late requested) (by simp [phase])
  | confirmed phase => exact absurd (late requested) (by simp [phase])
  | shut phase => exact .inl rfl
  | ended ending phase => exact .inr rfl
  | _ => exact late requested

/-- A handshake that waits to be confirmed is open. -/
theorem Passes.opens (passes : Passes before command answer after)
    (opened : before.phase = .initializing → Opened notes) (waits : after.phase = .initializing) :
    Opened (notes ++ [⟨command, answer⟩]) := by
  rw [opened_concat]
  cases passes with
  | refused command error asks =>
    rcases asks with rfl | rfl | ⟨method, rfl⟩ <;> exact .inr ⟨opened waits, nofun⟩
  | unopened phase => exact absurd waits phase
  | opened phase => exact .inl rfl
  | aborted phase => cases waits
  | confirmed phase => cases waits
  | shut phase => cases waits
  | ended ending phase => cases waits
  | _ => exact .inr ⟨opened waits, nofun⟩

/-- It is initialized exactly if a handshake was confirmed and nothing came after it. -/
theorem Passes.confirms (passes : Passes before command answer after)
    (opened : before.phase = .initializing → Opened notes)
    (confirmed : before.phase = .initialized ↔ Confirmed notes) :
    after.phase = .initialized ↔ Confirmed (notes ++ [⟨command, answer⟩]) := by
  rw [confirmed_concat, ← confirmed]
  cases passes with
  | refused command error asks =>
    rcases asks with rfl | rfl | ⟨method, rfl⟩ <;> simp [Note.isShutdown, Note.isEnd]
  | confirmed phase => simp [opened phase]
  | opened phase => simp [phase]
  | aborted phase => simp [phase]
  | _ => simp [Note.isShutdown, Note.isEnd]

end Passes

/-! ## Diaries -/

/-- What a diary tells of the calls that it was made of. -/
structure Diary.Tells {world : Type} (around : world) (calls : List (Call world))
    (diary : Diary world) : Prop where
  /-- The calls are noted, in order. -/
  commands : diary.notes.map Note.command = calls.map Call.command
  /-- The shutdown was asked for exactly if it was accepted. -/
  requested : diary.lifecycle.shutdownRequested = true ↔
    ∃ note ∈ diary.notes, note.isShutdown = true
  /-- After the shutdown there is only the end. -/
  late : diary.lifecycle.shutdownRequested = true →
    diary.lifecycle.phase = .shuttingDown ∨ diary.lifecycle.phase = .exited
  /-- The first end that was asked for counts. -/
  ending : diary.lifecycle.ending = calls.findSome? Call.ending?
  /-- How it ended is known exactly once it has. -/
  ended : diary.lifecycle.ending.isSome = true ↔ diary.lifecycle.phase = .exited
  /-- The first teardown that came with an end was carried out, and no other. -/
  around : diary.around =
    match calls.find? fun call => call.ending?.isSome with
    | some first => first.teardown around
    | none => around
  /-- A handshake that waits to be confirmed is open. -/
  opened : diary.lifecycle.phase = .initializing → Opened diary.notes
  /-- It is initialized exactly if a handshake was confirmed and nothing came after it. -/
  confirmed : diary.lifecycle.phase = .initialized ↔ Confirmed diary.notes

namespace Diary

variable {world : Type} {around : world} {calls : List (Call world)} {diary : Diary world}

/-- The diary of a new lifecycle is empty. -/
theorem Tells.start (around : world) : Tells around [] (ofCalls around []) where
  commands := rfl
  requested := by simp [ofCalls, fresh]
  late := fun requested => absurd requested Bool.false_ne_true
  ending := rfl
  ended := by simp [ofCalls, fresh]
  around := rfl
  opened := nofun
  confirmed := by simp [ofCalls, fresh, Confirmed]

/-- A call changes the world if it is the end. -/
theorem carryOut_around (lifecycle : Lifecycle) (around : world) (call : Call world) :
    (lifecycle.carryOut around call).2.2 =
      if lifecycle.phase ≠ .exited ∧ call.ending?.isSome then call.teardown around else around := by
  obtain ⟨command, teardown⟩ := call
  cases command with
  | terminate ending =>
    simp only [carryOut, terminateWith, terminate?, Call.ending?]
    cases lifecycle.phase <;> rfl
  | _ => simp [carryOut, Call.ending?]

/-- What is refused changes neither the lifecycle nor the world. -/
theorem carryOut_eq_of_refusal (lifecycle : Lifecycle) (around : world) (call : Call world)
    (refusal : (lifecycle.carryOut around call).1.isRefusal = true) :
    (lifecycle.carryOut around call).2 = (lifecycle, around) := by
  obtain ⟨command, teardown⟩ := call
  cases command with
  | terminate ending =>
    simp only [carryOut, terminateWith] at refusal ⊢
    cases ends : lifecycle.terminate? ending with
    | none => rfl
    | some next => simp only [ends] at refusal; cases refusal
  | _ =>
    simp only [carryOut] at refusal ⊢
    exact congrArg (·, around) ((lifecycle.run_passes _).eq_of_refusal refusal)

/-- A call for the end takes effect unless the session has ended. -/
theorem carryOut_effect (lifecycle : Lifecycle) (around : world) {call : Call world}
    (asks : call.ending?.isSome = true) :
    (lifecycle.carryOut around call).1 = .effect true ↔ lifecycle.phase ≠ .exited := by
  obtain ⟨command, teardown⟩ := call
  cases command with
  | terminate ending =>
    simp only [carryOut, terminateWith, terminate?]
    cases lifecycle.phase <;> simp
  | _ => cases asks

/-- What is written down of a call. -/
theorem call_eq (diary : Diary world) (call : Call world) :
    diary.call call =
      ⟨(diary.lifecycle.run call.command).2,
        if diary.lifecycle.phase ≠ .exited ∧ call.ending?.isSome then call.teardown diary.around
        else diary.around,
        diary.notes ++ [⟨call.command, (diary.lifecycle.run call.command).1⟩]⟩ := by
  rw [← carryOut_around, ← carryOut_run diary.lifecycle diary.around call]
  rfl

/-- The end that a call asks for decides how the session ended, unless it had ended. -/
theorem ending_run {lifecycle : Lifecycle} (call : Call world)
    (ended : lifecycle.ending.isSome = true ↔ lifecycle.phase = .exited) :
    (lifecycle.run call.command).2.ending = lifecycle.ending.or call.ending? ∧
      ((lifecycle.run call.command).2.ending.isSome = true ↔
        (lifecycle.run call.command).2.phase = .exited) := by
  obtain ⟨command, teardown⟩ := call
  have passes := lifecycle.run_passes command
  dsimp only
  generalize (lifecycle.run command).1 = answer, (lifecycle.run command).2 = after at passes ⊢
  -- Where the phase is another one before and after, there is no end yet.
  have lasting (phase : lifecycle.phase ≠ .exited) : lifecycle.ending = none := by
    rwa [← Option.not_isSome_iff_eq_none, ended]
  cases passes with
  | refused command error asks =>
    rcases asks with rfl | rfl | ⟨method, rfl⟩ <;> exact ⟨(Option.or_none).symm, ended⟩
  | unopened phase => exact ⟨(Option.or_none).symm, ended⟩
  | unconfirmed phase => exact ⟨(Option.or_none).symm, ended⟩
  | admitted method phase => exact ⟨(Option.or_none).symm, ended⟩
  | late ending phase =>
    obtain ⟨first, known⟩ := Option.isSome_iff_exists.mp (ended.mpr phase)
    exact ⟨by rw [known, Option.some_or], ended⟩
  | opened phase => exact ⟨(Option.or_none).symm, by simp [lasting (by simp [phase])]⟩
  | aborted phase => exact ⟨(Option.or_none).symm, by simp [lasting (by simp [phase])]⟩
  | confirmed phase => exact ⟨(Option.or_none).symm, by simp [lasting (by simp [phase])]⟩
  | shut phase => exact ⟨(Option.or_none).symm, by simp [lasting (by simp [phase])]⟩
  | ended ending phase => exact ⟨by rw [lasting phase]; rfl, by simp⟩

/-- It has ended exactly if the end was asked for. -/
theorem Tells.exited_iff (tells : diary.Tells around calls) :
    diary.lifecycle.phase = .exited ↔ (calls.find? fun call => call.ending?.isSome).isSome = true := by
  rw [← tells.ended, tells.ending, List.findSome?_isSome_iff, List.find?_isSome]

/-- A call is noted, and whatever the diary told it tells. -/
theorem Tells.call (tells : diary.Tells around calls) (call : Call world) :
    (diary.call call).Tells around (calls ++ [call]) := by
  rw [call_eq]
  have passes := diary.lifecycle.run_passes call.command
  obtain ⟨ending, ended⟩ := ending_run call tells.ended
  refine
    { commands := by simp [tells.commands]
      requested := ?_
      late := passes.late_of_requested tells.late
      ending := by rw [ending, tells.ending, List.findSome?_append, List.findSome?_singleton]
      ended := ended
      around := ?_
      opened := passes.opens tells.opened
      confirmed := passes.confirms tells.opened tells.confirmed }
  · rw [passes.requested, tells.requested]
    simp [or_and_right, exists_or]
  -- Whether the teardown is still to come, the phase tells; which one came, the first end.
  · have exited := tells.exited_iff
    simp only [tells.around, List.find?_append, ne_eq]
    cases first : calls.find? fun call => call.ending?.isSome with
    | some first =>
      have phase : diary.lifecycle.phase = .exited := exited.mpr (by rw [first]; rfl)
      simp [phase]
    | none =>
      have phase : diary.lifecycle.phase ≠ .exited := fun phase => by
        simpa [first] using exited.mp phase
      cases asks : call.ending?.isSome <;> simp [phase, asks]

/-- Whatever was called, the diary tells it. -/
theorem tells_ofCalls (around : world) (calls : List (Call world)) :
    (ofCalls around calls).Tells around calls := by
  have calling (diary : Diary world) (earlier : List (Call world))
      (tells : diary.Tells around earlier) :
      (calls.foldl Diary.call diary).Tells around (earlier ++ calls) := by
    induction calls generalizing diary earlier with
    | nil => rwa [List.append_nil]
    | cons call rest ih =>
      rw [List.append_cons]
      exact ih (diary.call call) (earlier ++ [call]) (tells.call call)
  exact calling _ [] (.start around)

/-- A shutdown that was asked for stays asked for. -/
theorem requested_foldl (requested : diary.lifecycle.shutdownRequested = true)
    (later : List (Call world)) :
    (later.foldl Diary.call diary).lifecycle.shutdownRequested = true := by
  induction later generalizing diary with
  | nil => exact requested
  | cons call rest ih =>
    refine ih ?_
    rw [call_eq]
    exact (diary.lifecycle.run_passes call.command).requested.mpr (.inl requested)

end Diary

/-- Whatever is asked of a lifecycle, and in whatever order: it goes from phase to phase by the
five steps alone, and what is refused changes nothing. The shutdown was asked for exactly if it
was accepted, and after it there is only the end. How it ended is known exactly once it has; the
first end that is asked for counts, is the only one that takes effect, and its teardown is the
only one that is carried out. Requests are admitted exactly when notifications are, and that is
when a handshake was accepted and not taken back, then confirmed, and neither the shutdown nor
the end was accepted since. -/
theorem told_by_calls {world : Type} (around : world) (calls : List (Call world)) :
    let diary := Diary.ofCalls around calls
    let lifecycle := diary.lifecycle
    diary.notes.map Note.command = calls.map Call.command ∧
    (∀ call, let next := (diary.call call).lifecycle.phase
      next = lifecycle.phase ∨ lifecycle.phase.Follows next) ∧
    (∀ call, let (answer, after) := lifecycle.carryOut diary.around call
      answer.isRefusal = true → after = (lifecycle, diary.around)) ∧
    (lifecycle.shutdownRequested = true ↔ ∃ note ∈ diary.notes, note.isShutdown = true) ∧
    (lifecycle.shutdownRequested = true → ∀ later,
      let last := (Diary.ofCalls around (calls ++ later)).lifecycle
      last.shutdownRequested = true ∧ (last.phase = .shuttingDown ∨ last.phase = .exited)) ∧
    (lifecycle.ending.isSome = true ↔ lifecycle.phase = .exited) ∧
    lifecycle.ending = calls.findSome? Call.ending? ∧
    (∀ call, call.ending?.isSome = true →
      ((lifecycle.carryOut diary.around call).1 = .effect true ↔
        ∀ earlier ∈ calls, earlier.ending? = none)) ∧
    diary.around = (match calls.find? fun call => call.ending?.isSome with
      | some first => first.teardown around
      | none => around) ∧
    (∀ method, lifecycle.admitRequest method = .ok () ↔ lifecycle.admitsNotifications = true) ∧
    (lifecycle.admitsNotifications = true ↔ Confirmed diary.notes) := by
  intro diary lifecycle
  have tells : diary.Tells around calls := Diary.tells_ofCalls around calls
  refine ⟨tells.commands, fun call => ?_, fun call => ?_, tells.requested, fun requested later => ?_,
    tells.ended, tells.ending, fun call asks => ?_, tells.around, fun method => ?_, ?_⟩
  · rw [Diary.call_eq]
    exact (lifecycle.run_passes call.command).follows
  · exact Diary.carryOut_eq_of_refusal lifecycle diary.around call
  · have still : (Diary.ofCalls around (calls ++ later)).lifecycle.shutdownRequested = true := by
      rw [Diary.ofCalls, List.foldl_append]
      exact Diary.requested_foldl requested later
    exact ⟨still, (Diary.tells_ofCalls around (calls ++ later)).late still⟩
  · rw [Diary.carryOut_effect lifecycle diary.around asks, ne_eq, ← tells.ended, tells.ending,
      Bool.not_eq_true, Option.isSome_eq_false_iff, Option.isNone_iff_eq_none,
      List.findSome?_eq_none_iff]
  · simp only [admitRequest, admitsNotifications]
    cases lifecycle.phase <;> simp
  · rw [← tells.confirmed, admitsNotifications, beq_iff_eq]

end Lifecycle

end LspGateway
