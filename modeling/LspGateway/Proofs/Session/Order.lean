import LspGateway.Proofs.Engine.Course
import LspGateway.Proofs.Session.Chronicle

/-!
# The order of the calls of the engine

The engine of a session is asked in a fixed order. What was asked of it so far is
kept as a record; what the record says goes with the phase of the session and
with the message that waits, if one does. This agreement is kept by every act:
only messages that are handled in their turn add letters to the word of the
record, and only in the phase for them, while tasks add calls for features, which
have no letters.
-/

namespace LspGateway.Session

open Engine

variable {state pending : Type}

/-- What the engine was asked so far. -/
def record (session : Session (Recorded state) (Nat × pending)) : List Entry :=
  session.bridge.engine.record

/-- The duty of the message that waits, and the number of its call. -/
def turn? (session : Session (Recorded state) (Nat × pending)) : Option (Duty × Nat) :=
  session.turn.map fun turn => (turn.duty, turn.call.1)

/-- What the record says in a phase before the end, while the engine is at a duty or
at none. An opening that is not answered is the last call of all. -/
def Tells (phase : Phase) (record : List Entry) : Option (Duty × Nat) → Prop
  | some (.opening _, number) => ∃ earlier asked cancelled,
    record = earlier ++ [.call asked cancelled none] ∧ asked.operation = .opening ∧
      number = earlier.length ∧ word earlier ∈ attempts
  | some (.exit, number) =>
    Entered record number .exit ∧ word record ∈ courseUpTo phase * single .exit
  | some (duty, number) => Entered record number duty.operation ∧ word record ∈ courseUpTo phase
  | none => word record ∈ courseUpTo phase

/-- The record knows of the tasks. -/
structure Backed (tasks : List (Task (Nat × pending))) (record : List Entry) : Prop where
  /-- The tasks that wait have calls for their features. -/
  waiting : ∀ task ∈ tasks, ∀ call, task.stage = .waiting call →
    Entered record call.1 (.feature task.feature)
  /-- There are tasks only once the engine has seen the confirmation through. -/
  known : tasks ≠ [] → Confirmed record

/-- The record and the lifecycle know of the tasks. -/
structure Rooted (lifecycle : Lifecycle) (tasks : List (Task (Nat × pending)))
    (record : List Entry) : Prop extends Backed tasks record where
  /-- There are no tasks before the handshake is confirmed. -/
  early : lifecycle.phase = .uninitialized ∨ lifecycle.phase = .initializing → tasks = []
  /-- A shutdown was asked for only in later phases. -/
  requested : lifecycle.shutdownRequested = true →
    lifecycle.phase = .shuttingDown ∨ lifecycle.phase = .exited

/-- The record agrees with the session. -/
structure Orderly (session : Session (Recorded state) (Nat × pending)) : Prop extends
    Rooted session.lifecycle session.tasks session.record where
  /-- Before the end the word goes with the phase. -/
  tells : session.hasEnded = false → Tells session.lifecycle.phase session.record session.turn?
  /-- After the end it is a whole course. -/
  ended : session.hasEnded = true → word session.record ∈ wholeCourse
  /-- In later phases the engine has seen the confirmation through, unless it is at it. -/
  confirmed : session.lifecycle.phase = .initialized ∨ session.lifecycle.phase = .shuttingDown →
    (∀ turn, session.turn = some turn → turn.duty ≠ .confirmation) → Confirmed session.record

namespace Backed

variable {tasks : List (Task (Nat × pending))} {before after : List Entry}

/-- Nothing is taken out of a record. -/
theorem continues (h : Backed tasks before) (hc : Continues before after) : Backed tasks after :=
  ⟨fun task ht call hs => hc.entered (h.waiting task ht call hs), fun hne => hc.confirmed (h.known hne)⟩

/-- Tasks may go. -/
theorem subset (h : Backed tasks before) {fewer : List (Task (Nat × pending))}
    (hsub : fewer ⊆ tasks) : Backed fewer before := by
  refine ⟨fun task ht => h.waiting task (hsub ht), fun hne => h.known fun hnil => hne ?_⟩
  exact List.eq_nil_of_subset_nil (hnil ▸ hsub)

end Backed

namespace Rooted

variable {lifecycle : Lifecycle} {tasks : List (Task (Nat × pending))} {before after : List Entry}

/-- Nothing is taken out of a record. -/
theorem continues (h : Rooted lifecycle tasks before) (hc : Continues before after) :
    Rooted lifecycle tasks after :=
  ⟨h.toBacked.continues hc, h.early, h.requested⟩

/-- Tasks may go. -/
theorem subset (h : Rooted lifecycle tasks before) {fewer : List (Task (Nat × pending))}
    (hsub : fewer ⊆ tasks) : Rooted lifecycle fewer before :=
  ⟨h.toBacked.subset hsub, fun hp => List.eq_nil_of_subset_nil (h.early hp ▸ hsub), h.requested⟩

end Rooted

/-- Before the end the word is one that may be ended. -/
theorem Tells.word_mem {phase : Phase} {record : List Entry} {turn : Option (Duty × Nat)}
    (h : Tells phase record turn) : word record ∈ courses * (1 + single .exit) := by
  unfold Tells at h
  split at h
  · obtain ⟨earlier, asked, cancelled, rfl, hop, -, hword⟩ := h
    have hlast : (Entry.call asked cancelled none).letter? = some .failedOpening := by
      simp [Entry.letter?, hop]
    have hattempts : word earlier ++ [.failedOpening] ∈ courseUpTo .uninitialized :=
      append_failedOpening hword
    rw [word_append, hlast]
    exact mem_courses_exit (mem_courses hattempts)
  · obtain ⟨first, hfirst, last, hlast, hword⟩ := Language.mem_mul.mp h.2
    rw [← hword, show last = [.exit] from hlast]
    exact append_exit (mem_courses hfirst)
  · exact mem_courses_exit (mem_courses h.2)
  · exact mem_courses_exit (mem_courses h)

/-- What a record says is still said when it is continued by what has no letters. -/
theorem Tells.continues {phase : Phase} {before after : List Entry}
    {turn : Option (Duty × Nat)} (h : Tells phase before turn) (hc : Continues before after)
    (hw : word after = word before)
    (later : ∀ id number, turn ≠ some (.opening id, number)) : Tells phase after turn := by
  unfold Tells at h ⊢
  split at h
  · next id number => exact absurd rfl (later id number)
  · exact ⟨hc.entered h.1, hw ▸ h.2⟩
  · exact ⟨hc.entered h.1, hw ▸ h.2⟩
  · exact hw ▸ h

namespace Orderly

variable {m : Engine state pending} {session : Session (Recorded state) (Nat × pending)}

/-- A session that has seen no message. -/
theorem create (engine : state) (config : SessionConfig) :
    (Session.create ⟨engine, []⟩ config :
      Session (Recorded state) (Nat × pending)).Orderly where
  tells := fun _ => Language.nil_mem_kstar _
  ended := fun h => absurd h Bool.false_ne_true
  waiting := fun _ h => absurd h List.not_mem_nil
  known := fun h => absurd rfl h
  early := fun _ => rfl
  confirmed := fun h => absurd h (by simp [Session.create, Lifecycle.fresh])
  requested := fun h => absurd h Bool.false_ne_true

/-- Sessions that are alike are orderly together. -/
theorem alike {told : Session (Recorded state) (Nat × pending)} (h : session.Orderly)
    (ha : session.Alike told) : told.Orderly := by
  have hrecord : told.record = session.record := congrArg Recorded.record ha.engine
  have hturn : told.turn? = session.turn? := by
    unfold turn?
    rw [ha.turn]
  refine ⟨?_, ?_, ?_, ?_⟩
  · rw [ha.lifecycle, ha.tasks, hrecord]
    exact h.toRooted
  · rw [ha.hasEnded, ha.lifecycle, hrecord, hturn]
    exact h.tells
  · rw [ha.hasEnded, hrecord]
    exact h.ended
  · rw [ha.lifecycle, ha.turn, hrecord]
    exact h.confirmed

/-- Without a message that waits, the word of a session that lasts is that of its
phase. -/
theorem of_idle (idle : session.turn = none) (lives : session.hasEnded = false)
    (hword : word session.record ∈ courseUpTo session.lifecycle.phase)
    (rooted : Rooted session.lifecycle session.tasks session.record)
    (confirmed : session.lifecycle.phase = .initialized ∨
      session.lifecycle.phase = .shuttingDown → Confirmed session.record) : session.Orderly := by
  refine ⟨rooted, fun _ => ?_, fun he => absurd (lives.symm.trans he) (by simp),
    fun hp _ => confirmed hp⟩
  unfold turn?
  rw [idle]
  exact hword

/-- Sending does not matter. -/
theorem send (h : session.Orderly) (message : Outgoing) : (session.send message).Orderly :=
  ⟨h.toRooted, h.tells, h.ended, h.confirmed⟩

/-- The end is the last thing that is said. -/
theorem terminated {ending : Ending} {after : Session (Recorded state) (Nat × pending)}
    (ht : Terminated m.recording session ending after)
    (hw : word session.record ∈ courses * (1 + single .exit))
    (backed : Backed session.tasks session.record) : after.Orderly := by
  have hrecord : after.record = session.record ++ [.disposal] :=
    congrArg Recorded.record ht.engine
  have hphase : after.lifecycle.phase = .exited := by rw [ht.lifecycle]
  have rooted : Rooted after.lifecycle after.tasks after.record := by
    rw [ht.tasks, hrecord]
    refine ⟨backed.continues (.append _ _), fun h => ?_, fun _ => .inr hphase⟩
    exact absurd h (by simp [hphase])
  refine ⟨rooted, fun h => ?_, fun _ => ?_, fun h => ?_⟩
  · exact absurd (ht.hasEnded.symm.trans h) (by simp)
  · rw [hrecord, word_append]
    exact append_disposal hw
  · exact absurd h (by simp [hphase])

end Orderly

/-! ## Messages that wait in their turn -/

/-- What the record says when a duty has ended. -/
def Attests (phase : Phase) (record : List Entry) : Duty → Engine.Outcome → Prop
  | .opening _, .result _ => word record ∈ courseUpTo .initializing
  | .opening _, _ => word record ∈ attempts
  | .exit, _ => word record ∈ courseUpTo phase * single .exit
  | _, _ => word record ∈ courseUpTo phase

/-- A duty that ends is noted in the record. -/
theorem Tells.attests {phase : Phase} {record : List Entry} {duty : Duty} {number : Nat}
    (h : Tells phase record (some (duty, number))) (outcome : Engine.Outcome) :
    Attests phase (record.modify number (Entry.settle outcome)) duty outcome := by
  cases duty with
  | opening id =>
    obtain ⟨earlier, asked, cancelled, rfl, hop, rfl, hword⟩ := h
    rw [modify_last]
    cases outcome with
    | result value =>
      have hword := append_single hword .opening
      simpa [Attests, word_append, Entry.settle, Entry.letter?, hop, courseUpTo] using hword
    | failed error =>
      have hword := append_failedOpening hword
      simpa [Attests, word_append, Entry.settle, Entry.letter?, hop] using hword
    | broke reason =>
      have hword := append_failedOpening hword
      simpa [Attests, word_append, Entry.settle, Entry.letter?, hop] using hword
  | confirmation =>
    simp only [Attests]
    rw [word_modify h.1 (by simp [Duty.operation])]
    exact h.2
  | shutdown id =>
    simp only [Attests]
    rw [word_modify h.1 (by simp [Duty.operation])]
    exact h.2
  | exit =>
    simp only [Attests]
    rw [word_modify h.1 (by simp)]
    exact h.2
  | notice notice =>
    simp only [Attests]
    rw [word_modify h.1 (by simp [Duty.operation])]
    exact h.2

section Turns

variable {m : Engine state pending} {session : Session (Recorded state) (Nat × pending)}

/-- A request that waits is answered. Only the opening changes the phase, and only if it
fails: then it is taken back. -/
theorem Orderly.settle {duty : Duty} {outcome : Engine.Outcome} (idle : session.turn = none)
    (fits : duty.FitsIn session.lifecycle.phase)
    (attests : Attests session.lifecycle.phase session.record duty outcome)
    (rooted : Rooted session.lifecycle session.tasks session.record)
    (confirmed : session.lifecycle.phase = .initialized ∨
      session.lifecycle.phase = .shuttingDown → Confirmed session.record)
    {id : RequestId} (asker : duty.asker? = some id) :
    ({ session with lifecycle := duty.settle outcome session.lifecycle } :
      Session (Recorded state) (Nat × pending)).Orderly := by
  have lives : session.hasEnded = false := by simpa [hasEnded] using fits.ne_exited
  cases duty with
  | opening id =>
    have hphase : session.lifecycle.phase = .initializing := fits
    have hback : session.lifecycle.abortHandshake =
        { session.lifecycle with phase := .uninitialized } := by
      simp only [Lifecycle.abortHandshake, hphase]
    have takenBack (hword : word session.record ∈ attempts) :
        ({ session with lifecycle := session.lifecycle.abortHandshake } :
          Session (Recorded state) (Nat × pending)).Orderly := by
      rw [hback]
      refine .of_idle idle rfl hword ⟨rooted.toBacked, fun _ => rooted.early (.inr hphase), ?_⟩
        (by simp)
      intro hr
      exact absurd (rooted.requested hr) (by simp [hphase])
    cases outcome with
    | result value => exact .of_idle idle lives (hphase ▸ attests) rooted confirmed
    | failed error => exact takenBack attests
    | broke reason => exact takenBack attests
  | shutdown id => exact .of_idle idle lives attests rooted confirmed
  | confirmation => exact absurd asker (by simp [Duty.asker?])
  | exit => exact absurd asker (by simp [Duty.asker?])
  | notice notice => exact absurd asker (by simp [Duty.asker?])

/-- The end of a duty leaves the session orderly. -/
theorem Concluded.orderly {duty : Duty} {outcome : Engine.Outcome}
    {after : Session (Recorded state) (Nat × pending)}
    (hc : Concluded m.recording session duty outcome after) (h : session.Coherent)
    (idle : session.turn = none) (fits : duty.FitsIn session.lifecycle.phase)
    (attests : Attests session.lifecycle.phase session.record duty outcome)
    (rooted : Rooted session.lifecycle session.tasks session.record)
    (confirmed : session.lifecycle.phase = .initialized ∨
      session.lifecycle.phase = .shuttingDown → Confirmed session.record) : after.Orderly := by
  have lives : session.hasEnded = false := by simpa [hasEnded] using fits.ne_exited
  cases hc with
  | answered id answer asker alike =>
    exact ((Orderly.settle idle fits attests rooted confirmed asker).alike alike).send _
  | seen asker stay alike =>
    have hword : word session.record ∈ courseUpTo session.lifecycle.phase := by
      cases duty with
      | confirmation => exact attests
      | notice notice => exact attests
      | exit => exact absurd rfl stay
      | opening id => exact absurd asker (by simp [Duty.asker?])
      | shutdown id => exact absurd asker (by simp [Duty.asker?])
    exact (Orderly.of_idle idle lives hword rooted confirmed).alike alike
  | left leaves alike =>
    have hword : word session.record ∈ courses * (1 + single .exit) := by
      subst leaves
      obtain ⟨first, hfirst, last, hlast, hword⟩ := Language.mem_mul.mp attests
      rw [← hword, show last = [.exit] from hlast]
      exact append_exit (mem_courses hfirst)
    have hrecord : Session.record _ = session.record := congrArg Recorded.record alike.engine
    have told := (h.alike alike).terminated m.recording (alike.hasEnded.trans lives) .exit
    exact .terminated told (hrecord ▸ hword) (hrecord ▸ alike.tasks ▸ rooted.toBacked)

/-- Going on with a message leaves the session orderly. -/
theorem Continued.orderly {duty : Duty} {earlier : List Entry} {number : Nat}
    {answer : state × Engine.Turn pending} {after : Session (Recorded state) (Nat × pending)}
    (hc : Continued m.recording session duty (noteTurn earlier number answer) after)
    (h : session.Coherent) (fits : duty.FitsIn session.lifecycle.phase)
    (tells : Tells session.lifecycle.phase earlier (some (duty, number)))
    (rooted : Rooted session.lifecycle session.tasks earlier)
    (confirmed : session.lifecycle.phase = .initialized ∨
      session.lifecycle.phase = .shuttingDown → duty ≠ .confirmation → Confirmed earlier) :
    after.Orderly := by
  have lives : session.hasEnded = false := by simpa [hasEnded] using fits.ne_exited
  cases hc with
  | waits call progress alike =>
    obtain ⟨hnumber, hrecord⟩ := noteTurn_waiting progress
    have waiting : ((session.withEngine (noteTurn earlier number answer).1).withTurn
        (some ⟨duty, call⟩)).Orderly := by
      have hsame : Session.record ((session.withEngine (noteTurn earlier number answer).1).withTurn
          (some ⟨duty, call⟩)) = earlier := hrecord
      refine ⟨?_, fun _ => ?_, fun he => absurd (lives.symm.trans he) (by simp), fun hp hne => ?_⟩
      · rw [hsame]
        exact rooted
      · rw [hsame]
        change Tells _ earlier (some (duty, call.1))
        rw [hnumber]
        exact tells
      · rw [hsame]
        exact confirmed hp (hne ⟨duty, call⟩ rfl)
    exact waiting.alike alike
  | @ends told after outcome progress alike concluded =>
    have hrecord : told.record = earlier.modify number (Entry.settle outcome) :=
      (congrArg Recorded.record alike.engine).trans (noteTurn_done progress)
    have hcontinues : Continues earlier told.record := hrecord ▸ .modify earlier number outcome
    have hphase : told.lifecycle = session.lifecycle := alike.lifecycle
    have htasks : told.tasks = session.tasks := alike.tasks
    refine concluded.orderly ((h.withEngine _).withoutTurn.alike alike) alike.turn ?_ ?_ ?_ ?_
    · rw [hphase]
      exact fits
    · rw [hphase, hrecord]
      exact tells.attests outcome
    · rw [hphase, htasks]
      exact rooted.continues hcontinues
    · rw [hphase]
      intro hp
      by_cases hd : duty = .confirmation
      · subst hd
        rw [hrecord]
        exact confirmed_modify tells.1 outcome
      · exact hcontinues.confirmed (confirmed hp hd)

end Turns

/-! ## Messages -/

/-- A duty begins with a call that goes with the phase. -/
theorem Tells.begins {before after : Lifecycle} {record : List Entry} {duty : Duty}
    {asked : Engine.Call} (h : Tells before.phase record none) (starts : duty.Starts before after)
    (operation : asked.operation = duty.operation) :
    Tells after.phase (record ++ [.call asked none none]) (some (duty, record.length)) := by
  have hinv := starts.inv
  have entered := entered_append record asked none
  rw [operation] at entered
  have hword : word (record ++ [.call asked none none]) =
      word record ++ (Entry.call asked none none).letter?.toList := word_append record _
  have hsaid : word record ∈ courseUpTo before.phase := h
  simp only [Entry.letter?, operation] at hword
  cases duty with
  | opening id =>
    rw [hinv.1] at hsaid
    exact ⟨record, asked, none, rfl, operation, rfl, hsaid⟩
  | confirmation =>
    rw [hinv.1] at hsaid
    refine ⟨entered, ?_⟩
    rw [hinv.2, hword]
    exact append_confirmation hsaid
  | shutdown id =>
    rw [hinv.1] at hsaid
    refine ⟨entered, ?_⟩
    rw [hinv.2, hword]
    exact append_single hsaid .shutdown
  | exit =>
    have hafter : after = before := hinv
    refine ⟨entered, ?_⟩
    rw [hafter, hword]
    exact append_single hsaid .exit
  | notice notice =>
    rw [hinv.1] at hsaid
    refine ⟨entered, ?_⟩
    rw [hinv.2, hinv.1, hword]
    exact append_notice hsaid

/-- What begins before the handshake is confirmed begins before it is confirmed. -/
theorem Duty.Starts.early {duty : Duty} {before after : Lifecycle} (h : duty.Starts before after)
    (hp : after.phase = .uninitialized ∨ after.phase = .initializing) :
    before.phase = .uninitialized ∨ before.phase = .initializing := by
  have hinv := h.inv
  cases duty with
  | opening id => exact .inl hinv.1
  | confirmation => exact absurd hp (by simp [hinv.2])
  | shutdown id => exact absurd hp (by simp [hinv.2])
  | exit => exact (show after = before from hinv) ▸ hp
  | notice notice => exact hinv.2 ▸ hp

/-- What begins afterwards, but for the confirmation itself, begins afterwards. -/
theorem Duty.Starts.late {duty : Duty} {before after : Lifecycle} (h : duty.Starts before after)
    (hp : after.phase = .initialized ∨ after.phase = .shuttingDown) (hne : duty ≠ .confirmation) :
    before.phase = .initialized ∨ before.phase = .shuttingDown := by
  have hinv := h.inv
  cases duty with
  | opening id => exact absurd hp (by simp [hinv.2])
  | confirmation => exact absurd rfl hne
  | shutdown id => exact .inl hinv.1
  | exit => exact (show after = before from hinv) ▸ hp
  | notice notice => exact hinv.2 ▸ hp

/-- Only the shutdown asks for the shutdown. -/
theorem Duty.Starts.requested {duty : Duty} {before after : Lifecycle}
    (h : duty.Starts before after)
    (hb : before.shutdownRequested = true → before.phase = .shuttingDown ∨ before.phase = .exited)
    (ha : after.shutdownRequested = true) :
    after.phase = .shuttingDown ∨ after.phase = .exited := by
  have hinv := h.inv
  cases duty with
  | opening id =>
    rw [hinv.2] at ha
    exact absurd (hb ha) (by simp [hinv.1])
  | confirmation =>
    rw [hinv.2] at ha
    exact absurd (hb ha) (by simp [hinv.1])
  | shutdown id => exact .inl (by rw [hinv.2])
  | exit => exact (show after = before from hinv) ▸ hb ((show after = before from hinv) ▸ ha)
  | notice notice => exact hinv.2 ▸ hb (hinv.2 ▸ ha)

/-- What begins concerns no task. -/
theorem Rooted.starts {duty : Duty} {before after : Lifecycle}
    {tasks : List (Task (Nat × pending))} {record : List Entry} (h : Rooted before tasks record)
    (starts : duty.Starts before after) : Rooted after tasks record :=
  ⟨h.toBacked, fun hp => h.early (starts.early hp), starts.requested h.requested⟩

section Messages

variable {m : Engine state pending} {session : Session (Recorded state) (Nat × pending)}

/-- Handling a message leaves the session orderly. -/
theorem Upshot.orderly {payload : Bytes} {after : Session (Recorded state) (Nat × pending)}
    (hu : Upshot m.recording session payload after) (h : session.Orderly)
    (coherent : session.Coherent) (lives : session.hasEnded = false)
    (idle : session.turn = none) : after.Orderly := by
  have seen (hp : session.lifecycle.phase = .initialized ∨
      session.lifecycle.phase = .shuttingDown) : Confirmed session.record :=
    h.confirmed hp fun turn ht => absurd (idle.symm.trans ht) (by simp)
  cases hu with
  | ignored due alike => exact h.alike alike
  | cancelled id due alike =>
    have cancelled : ({ session with registry := (session.registry.cancel id).2 } :
        Session (Recorded state) (Nat × pending)).Orderly :=
      ⟨h.toRooted, h.tells, h.ended, h.confirmed⟩
    exact cancelled.alike alike
  | answered id answer due alike => exact (h.alike alike).send _
  | enlisted id feature params decoded phase free due alike =>
    have enlisted : (session.enlist id feature params).Orderly := by
      refine ⟨⟨⟨fun task ht call hs => ?_, fun _ => seen (.inl phase)⟩, fun hp => ?_,
        h.requested⟩, h.tells, h.ended, h.confirmed⟩
      · rcases List.mem_append.mp ht with hold | hnew
        · exact h.waiting task hold call hs
        · rw [List.mem_singleton.mp hnew] at hs
          exact absurd hs (by simp)
      · have hphase : session.lifecycle.phase = .uninitialized ∨
            session.lifecycle.phase = .initializing := hp
        exact absurd hphase (by simp [phase])
    exact enlisted.alike alike
  | @asked told duty next call due starts operation alike =>
    obtain ⟨begun, fits⟩ := coherent.begun lives idle starts alike
    have hrecord : told.record = session.record := congrArg Recorded.record alike.engine
    have hphase : told.lifecycle = next := alike.lifecycle
    have htasks : told.tasks = session.tasks := alike.tasks
    have hcontinues : Continues session.record (told.record ++ [.call call none none]) :=
      hrecord ▸ .append session.record _
    have tells : Tells session.lifecycle.phase session.record none := by
      have hturn : session.turn? = none := by
        unfold turn?
        rw [idle]
        rfl
      exact hturn ▸ h.tells lives
    refine Continued.orderly (begun.asked duty call) begun fits ?_ ?_ ?_
    · change Tells _ (told.record ++ [.call call none none]) (some (duty, told.record.length))
      rw [hphase, hrecord]
      exact tells.begins starts operation
    · rw [hphase, htasks]
      exact (h.toRooted.starts starts).continues hcontinues
    · rw [hphase]
      exact fun hp hne => hcontinues.confirmed (seen (starts.late hp hne))

end Messages

/-! ## Tasks -/

section Tasks

variable {m : Engine state pending} {session : Session (Recorded state) (Nat × pending)}

/-- A record that is continued by what has no letters leaves the session orderly. -/
theorem Orderly.withRecord (h : session.Orderly) (coherent : session.Coherent)
    (hne : session.tasks ≠ []) (engine : Recorded state)
    (hc : Continues session.record engine.record)
    (hw : word engine.record = word session.record) : (session.withEngine engine).Orderly := by
  refine ⟨h.toRooted.continues hc, fun lives => ?_, fun ended => ?_,
    fun hp hd => hc.confirmed (h.confirmed hp hd)⟩
  · -- Where there are tasks, no opening of the handshake waits.
    refine (h.tells lives).continues hc hw fun id number hturn => ?_
    obtain ⟨turn, hwaits, hduty⟩ := Option.map_eq_some_iff.mp hturn
    have fits := coherent.fits lives hwaits
    rw [show turn.duty = .opening id from congrArg Prod.fst hduty] at fits
    exact hne (h.early (.inr fits))
  · exact hw ▸ h.ended ended

/-- A task that is answered goes. -/
theorem Orderly.retire (h : session.Orderly) (task : Task (Nat × pending)) :
    (session.retire task).Orderly := by
  have hsub : (session.tasks.filter fun other => other.ticket != task.ticket) ⊆ session.tasks :=
    List.filter_subset_self _
  exact ⟨h.toRooted.subset hsub, h.tells, h.ended, h.confirmed⟩

/-- A task that waits has its call in the record. -/
theorem Orderly.park (h : session.Orderly) {task : Task (Nat × pending)} {call : Nat × pending}
    (entered : Entered session.record call.1 (.feature task.feature)) :
    (session.park task call).Orderly := by
  refine ⟨⟨⟨fun other ho waiting hs => ?_, fun hne => ?_⟩, fun hp => ?_, h.requested⟩, h.tells,
    h.ended, h.confirmed⟩
  · obtain ⟨old, hold, hother⟩ := List.mem_map.mp ho
    split at hother
    · subst hother
      rw [← Stage.waiting.inj hs]
      exact entered
    · subst hother
      exact h.waiting old hold waiting hs
  · refine h.known fun hnil => hne ?_
    unfold Session.park
    rw [hnil]
    rfl
  · unfold Session.park
    rw [h.early hp]
    rfl

/-- What the record of a recording engine says when it is asked in a task, and under
which number: a call for the feature begins, or one that waits is resumed. -/
inductive Consulted (session : Session (Recorded state) (Nat × pending))
    (task : Task (Nat × pending)) : List Entry → Nat → Prop where
  /-- A call begins. -/
  | begun (params : Json) (asked : Engine.Call) (stage : task.stage = .spawned params)
      (decoded : Dispatch.decode (.feature task.feature) params = .ok asked) :
      Consulted session task
        (session.record ++ [.call asked (some (session.cancelledTask task)) none])
        session.record.length
  /-- A call is resumed. -/
  | resumed (call : Nat × pending) (stage : task.stage = .waiting call) :
      Consulted session task session.record call.1

/-- The engine is asked in one of these ways. -/
theorem consulted_of_consult {task : Task (Nat × pending)}
    {turn : Recorded state × Engine.Turn (Nat × pending)}
    (h : session.consult m.recording task = some turn) :
    ∃ (noted : List Entry) (number : Nat) (answer : state × Engine.Turn pending),
      Consulted session task noted number ∧ turn = noteTurn noted number answer := by
  unfold consult at h
  split at h
  · next params hstage =>
    cases hdecode : Dispatch.decode (.feature task.feature) params with
    | error error =>
      rw [hdecode] at h
      exact absurd h (by simp [Except.toOption])
    | ok asked =>
      rw [hdecode] at h
      exact ⟨_, _, _, .begun params asked hstage hdecode, (Option.some.inj h).symm⟩
  · next call hstage => exact ⟨_, _, _, .resumed call hstage, (Option.some.inj h).symm⟩

/-- Asking the engine in a task continues the record by what has no letters. -/
theorem Consulted.continues {task : Task (Nat × pending)} {noted : List Entry} {number : Nat}
    (hc : Consulted session task noted number) (ht : task ∈ session.tasks) (h : session.Orderly) :
    Continues session.record noted ∧ Entered noted number (.feature task.feature) ∧
      word noted = word session.record := by
  cases hc with
  | begun params asked stage decoded =>
    have hop := operation_of_decode decoded
    have entered := entered_append session.record asked (some (session.cancelledTask task))
    refine ⟨.append _ _, hop ▸ entered, ?_⟩
    rw [word_append]
    simp [Entry.letter?, hop]
  | resumed call stage => exact ⟨.refl _, h.waiting task ht call stage, rfl⟩

/-- Going on with a task leaves the session orderly. -/
theorem Worked.orderly {ticket : Nat} {after : Session (Recorded state) (Nat × pending)}
    (hw : Worked m.recording session ticket after) (h : session.Orderly)
    (coherent : session.Coherent) : after.Orderly := by
  cases hw with
  | absent missing => exact h
  | refused task answer found consulted alike => exact ((h.retire task).alike alike).send _
  | parked task turn call found consulted progress alike =>
    have ht := (Coherent.mem_of_task? found).1
    obtain ⟨noted, number, answer, hconsulted, rfl⟩ := consulted_of_consult consulted
    obtain ⟨hcontinues, hentered, hword⟩ := hconsulted.continues ht h
    obtain ⟨hnumber, hrecord⟩ := noteTurn_waiting progress
    have engaged : (session.withEngine (noteTurn noted number answer).1).Orderly := by
      refine h.withRecord coherent (List.ne_nil_of_mem ht) _ ?_ ?_
      · rw [hrecord]
        exact hcontinues
      · rw [hrecord]
        exact hword
    have entered : Entered (session.withEngine (noteTurn noted number answer).1).record call.1
        (.feature task.feature) := by
      change Entered (noteTurn noted number answer).1.record call.1 _
      rw [hrecord, hnumber]
      exact hentered
    exact (engaged.park entered).alike alike
  | answered task turn outcome answer found consulted progress alike =>
    have ht := (Coherent.mem_of_task? found).1
    obtain ⟨noted, number, said, hconsulted, rfl⟩ := consulted_of_consult consulted
    obtain ⟨hcontinues, hentered, hword⟩ := hconsulted.continues ht h
    have hrecord := noteTurn_done progress
    have engaged : (session.withEngine (noteTurn noted number said).1).Orderly := by
      refine h.withRecord coherent (List.ne_nil_of_mem ht) _ ?_ ?_
      · rw [hrecord]
        exact hcontinues.trans (.modify noted number outcome)
      · rw [hrecord, word_modify hentered (by simp) outcome, hword]
    exact ((engaged.retire task).alike alike).send _

end Tasks

/-! ## Acts -/

/-- The same act, where the engine keeps a record: what the engine comes to of its
own accord leaves the record alone. -/
def Act.recorded : Act state → Act (Recorded state)
  | .stir change => .stir fun recorded => { recorded with engine := change recorded.engine }
  | .receive world payload => .receive world payload
  | .resume => .resume
  | .work ticket => .work ticket
  | .watch world number => .watch world number
  | .publish event => .publish event
  | .note entries => .note entries
  | .take => .take
  | .dropReceiver => .dropReceiver
  | .inputEnded => .inputEnded
  | .inputFailed fault => .inputFailed fault
  | .outputFailed fault => .outputFailed fault
  | .close => .close

/-- The end leaves the session orderly, whether or not the message that waits is cut off. -/
theorem Orderly.terminate {m : Engine state pending}
    {session told : Session (Recorded state) (Nat × pending)} (h : session.Orderly)
    (coherent : told.Coherent) {turn : Option (Turn (Nat × pending))}
    (alike : (session.withTurn turn).Alike told) (ending : Ending) :
    (told.terminate m.recording ending).Orderly := by
  cases hs : session.hasEnded with
  | true =>
    have hphase : session.lifecycle.phase = .exited := by simpa [hasEnded] using hs
    have cutOff : (session.withTurn turn).Orderly := by
      refine ⟨h.toRooted, fun lives => absurd (hs.symm.trans lives) (by simp), h.ended,
        fun hp => ?_⟩
      exact absurd (show session.lifecycle.phase = _ ∨ session.lifecycle.phase = _ from hp)
        (by simp [hphase])
    rw [terminate_of_exited m.recording told ending (alike.lifecycle ▸ hphase)]
    exact cutOff.alike alike
  | false =>
    have hrecord : told.record = session.record := congrArg Recorded.record alike.engine
    have finished := coherent.terminated m.recording (alike.hasEnded.trans hs) ending
    refine .terminated finished ?_ ?_
    · rw [hrecord]
      exact (h.tells hs).word_mem
    · rw [hrecord, alike.tasks]
      exact h.toBacked

/-- Every act leaves the session orderly. -/
theorem Orderly.perform {m : Engine state pending}
    {session : Session (Recorded state) (Nat × pending)} (h : session.Orderly)
    (coherent : session.Coherent) (act : Act state) :
    (session.perform m.recording act.recorded).Orderly := by
  have performed := perform_performed (m := m.recording) coherent act.recorded
  generalize hact : act.recorded = done at performed ⊢
  generalize session.perform m.recording done = after at performed ⊢
  cases performed with
  | quiet unread kept other alike => exact h.alike alike
  | handled world payload lives idle hu => exact hu.orderly h coherent lives idle
  | resumed turn lives waits hc =>
    have hturn : session.turn? = some (turn.duty, turn.call.1) := by
      unfold turn?
      rw [waits]
      rfl
    have resumed : Continued m.recording session turn.duty
        (noteTurn session.record turn.call.1
          (m.resume turn.call.2 none session.bridge.engine.engine)) after := hc
    refine resumed.orderly coherent (coherent.fits lives waits) (hturn ▸ h.tells lives) h.toRooted
      fun hp hne => h.confirmed hp fun other ho => ?_
    rw [← Option.some.inj (waits.symm.trans ho)]
    exact hne
  | worked ticket hw => exact hw.orderly h coherent
  | stirred change =>
    cases act <;> simp only [Act.recorded, Act.stir.injEq, reduceCtorEq] at hact
    subst hact
    exact ⟨h.toRooted, h.tells, h.ended, h.confirmed⟩
  | taken => exact ⟨h.toRooted, h.tells, h.ended, h.confirmed⟩
  | dropped closed => exact ⟨h.toRooted, h.tells, h.ended, h.confirmed⟩
  | ended ending turn unread kept other cut alike =>
    exact h.terminate ((coherent.cut cut).alike alike) alike ending

end LspGateway.Session
