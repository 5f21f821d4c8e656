import LspGateway.Supervisor.Clock

/-!
# The course of a watch

A supervisor has its turns whenever it is given them, early or late; meanwhile time passes, the
process is found to be one thing or another, and the watch may be stopped or the session be
cancelled. Whatever the order of all that, the supervisor reports a death exactly if a question
was answered so, this question is the last one, none is asked once the watch is unwanted, and
none comes before its time.
-/

namespace LspGateway.Supervisor

/-- A question for a process. -/
structure Question where
  /-- When it was asked. -/
  time : Nat
  /-- What the process was found to be. -/
  answer : Except ProbeError Bool

/-- Whether the process was found dead. -/
def Question.isDeath (question : Question) : Bool :=
  match question.answer with
  | .ok false => true
  | .ok true | .error _ => false

/-- A death is told by the answer alone. -/
theorem Question.isDeath_iff {question : Question} :
    question.isDeath = true ↔ question.answer = .ok false := by
  unfold isDeath
  rcases question.answer with _ | (_ | _) <;> simp

/-! ## Turns -/

/-- What a turn comes to. -/
inductive Turned (supervisor : Supervisor) (cancelled : Bool) (now : Nat)
    (answer : Except ProbeError Bool) : Turn → Prop where
  /-- The watch has ended. -/
  | finished (ended : supervisor.finished = true) :
      Turned supervisor cancelled now answer ⟨supervisor, false, false, []⟩
  /-- The watch is not wanted any more, and ends. -/
  | retired (lasts : supervisor.finished = false)
      (unwanted : (supervisor.stopped || cancelled) = true) :
      Turned supervisor cancelled now answer supervisor.finish
  /-- It is too early for a question. -/
  | early (lasts : supervisor.finished = false)
      (wanted : (supervisor.stopped || cancelled) = false) (soon : now < supervisor.due) :
      Turned supervisor cancelled now answer ⟨supervisor, false, false, []⟩
  /-- A question is asked, and the process was found dead. -/
  | died (lasts : supervisor.finished = false)
      (wanted : (supervisor.stopped || cancelled) = false) (due : supervisor.due ≤ now)
      (dead : answer = .ok false) (entries : List Log.Entry) :
      Turned supervisor cancelled now answer
        ⟨{ supervisor with finished := true }, true, true, entries⟩
  /-- A question is asked, and the watch goes on. -/
  | lives (lasts : supervisor.finished = false)
      (wanted : (supervisor.stopped || cancelled) = false) (due : supervisor.due ≤ now)
      (alive : answer ≠ .ok false) (entries : List Log.Entry) :
      Turned supervisor cancelled now answer
        ⟨{ supervisor with due := supervisor.following now }, true, false, entries⟩

/-- There is nothing else that a turn may come to. -/
theorem turn_turned (supervisor : Supervisor) (cancelled : Bool) (now : Nat)
    (answer : Except ProbeError Bool) :
    Turned supervisor cancelled now answer (supervisor.turn cancelled now answer) := by
  unfold turn
  split
  · next ended => exact .finished ended
  · next lasts =>
    have lasts : supervisor.finished = false := Bool.eq_false_iff.mpr lasts
    split
    · next unwanted => exact .retired lasts unwanted
    · next wanted =>
      have wanted : (supervisor.stopped || cancelled) = false := Bool.eq_false_iff.mpr wanted
      split
      · next due =>
        rcases answer with error | (_ | _)
        · exact .lives lasts wanted due (by simp) _
        · exact .died lasts wanted due rfl _
        · exact .lives lasts wanted due (by simp) _
      · next soon => exact .early lasts wanted (Nat.lt_of_not_le soon)

namespace Watch

/-! ## Moves -/

/-- What may happen next to a watch. -/
inductive Move where
  /-- Time passes, and the supervisor has no turn meanwhile. -/
  | pass (time : Nat)
  /-- The process is found to be something else from now on. -/
  | answer (answer : Except ProbeError Bool)
  /-- The supervisor is told to stop. -/
  | stop
  /-- The session is cancelled. -/
  | cancelSession
  /-- The supervisor has a turn. -/
  | turn

/-- Makes a move. -/
def move (watch : Watch) : Move → Watch
  | .pass time => { watch with now := watch.now + time }
  | .answer answer => { watch with answer := answer }
  | .stop => { watch with supervisor := watch.supervisor.stop }
  | .cancelSession => { watch with cancelled := true }
  | .turn => watch.settle

/-- Whether the supervisor is to end at its next turn. -/
def isUnwanted (watch : Watch) : Bool :=
  watch.supervisor.stopped || watch.cancelled

/-- The question that a move leads to, if it does. -/
def asked (watch : Watch) : Move → List Question
  | .turn =>
    if (watch.supervisor.turn watch.cancelled watch.now watch.answer).probed then
      [⟨watch.now, watch.answer⟩]
    else []
  | .pass _ | .answer _ | .stop | .cancelSession => []

/-- A turn asks a question if the watch goes on and one is due. -/
theorem asked_turn (watch : Watch) :
    watch.asked .turn =
      if watch.supervisor.finished = false ∧ watch.isUnwanted = false ∧
          watch.supervisor.due ≤ watch.now then
        [⟨watch.now, watch.answer⟩]
      else [] := by
  have turned := turn_turned watch.supervisor watch.cancelled watch.now watch.answer
  unfold asked isUnwanted
  dsimp only
  generalize watch.supervisor.turn watch.cancelled watch.now watch.answer = turn at turned
  cases turned with
  | finished ended => simp [ended]
  | retired lasts unwanted => simp [finish, unwanted]
  | early lasts wanted soon => simp [Nat.not_le_of_lt soon]
  | died lasts wanted due dead entries => simp [lasts, wanted, due]
  | lives lasts wanted due alive entries => simp [lasts, wanted, due]

/-- Makes moves, one after the other. -/
def moves (watch : Watch) (moves : List Move) : Watch :=
  moves.foldl move watch

/-- The clock is moved to a moment by what is left until then. -/
theorem move_pass (watch : Watch) {target : Nat} (later : watch.now ≤ target) :
    watch.move (.pass (target - watch.now)) = { watch with now := target } := by
  have sum : watch.now + (target - watch.now) = target := Nat.add_sub_cancel' later
  simp only [move, sum]

/-- The clock stops at every time at which a question is due, and the supervisor has its
turn. -/
theorem exists_moves_passTurns (fuel target : Nat) (watch : Watch) (later : watch.now ≤ target) :
    ∃ made, passTurns fuel target watch = watch.moves made := by
  have whole : { watch with now := target } = watch.moves [.pass (target - watch.now)] :=
    (watch.move_pass later).symm
  induction fuel generalizing watch with
  | zero => exact ⟨_, whole⟩
  | succ fuel ih =>
    unfold passTurns
    split
    · exact ⟨_, whole⟩
    · next coming =>
      have due : watch.supervisor.due ≤ target := by simp at coming; omega
      let stopped : Watch := { watch with now := max watch.now watch.supervisor.due }
      have within : stopped.settle.now ≤ target := Nat.max_le.mpr ⟨later, due⟩
      obtain ⟨made, hmade⟩ := ih stopped.settle within (move_pass _ within).symm
      have reached : watch.move (.pass (stopped.now - watch.now)) = stopped :=
        watch.move_pass (Nat.le_max_left _ _)
      refine ⟨.pass (stopped.now - watch.now) :: .turn :: made, ?_⟩
      rw [moves, List.foldl_cons, reached]
      exact hmade

/-- Whatever command is given, a watch makes moves. -/
theorem exists_moves_run (watch : Watch) (command : Command) :
    ∃ made, watch.run command = watch.moves made := by
  cases command with
  | advance time =>
    obtain ⟨made, hmade⟩ := exists_moves_passTurns
      (time / (max watch.settle.supervisor.interval 1) + 1) (watch.settle.now + time) watch.settle
      (Nat.le_add_right _ _)
    exact ⟨.turn :: made, hmade⟩
  | answer answer => exact ⟨[.answer answer, .turn], rfl⟩
  | stop => exact ⟨[.stop, .turn], rfl⟩
  | cancelSession => exact ⟨[.cancelSession, .turn], rfl⟩

end Watch

/-! ## Vigils -/

/-- A watch, and the questions that were asked in the course of it. -/
structure Vigil where
  /-- The watch. -/
  watch : Watch
  /-- The questions, in order. -/
  questions : List Question

namespace Vigil

/-- A watch that has just begun. -/
def start (pid interval : Nat) (answer : Except ProbeError Bool) : Vigil :=
  ⟨.start pid interval answer, []⟩

/-- Makes a move. -/
def step (vigil : Vigil) (move : Watch.Move) : Vigil :=
  ⟨vigil.watch.move move, vigil.questions ++ vigil.watch.asked move⟩

/-- Makes moves, one after the other. -/
def run (vigil : Vigil) (moves : List Watch.Move) : Vigil :=
  moves.foldl step vigil

/-- When the last question was asked; the beginning, if there was none. -/
def lastTime (vigil : Vigil) : Nat :=
  (vigil.questions.getLast?.map Question.time).getD 0

/-- A last move. -/
theorem run_concat (vigil : Vigil) (moves : List Watch.Move) (move : Watch.Move) :
    vigil.run (moves ++ [move]) = (vigil.run moves).step move :=
  List.foldl_append

/-- Moves that follow others. -/
theorem run_append (vigil : Vigil) (earlier later : List Watch.Move) :
    vigil.run (earlier ++ later) = (vigil.run earlier).run later :=
  List.foldl_append

end Vigil

/-- The watch was stopped, or the session cancelled. -/
def Unwanted (moves : List Watch.Move) : Prop :=
  .stop ∈ moves ∨ .cancelSession ∈ moves

/-- The supervisor had a turn after it was unwanted. -/
def Retired (moves : List Watch.Move) : Prop :=
  ∃ earlier, earlier ++ [.turn] <+: moves ∧ Unwanted earlier

/-- One more move. -/
theorem unwanted_concat {moves : List Watch.Move} {move : Watch.Move} :
    Unwanted (moves ++ [move]) ↔ Unwanted moves ∨ move = .stop ∨ move = .cancelSession := by
  simp only [Unwanted, List.mem_append, List.mem_singleton, eq_comm (b := move)]
  exact or_or_or_comm

/-- One more move. -/
theorem retired_concat {moves : List Watch.Move} {move : Watch.Move} :
    Retired (moves ++ [move]) ↔ Retired moves ∨ (move = .turn ∧ Unwanted moves) := by
  constructor
  · rintro ⟨earlier, before, unwanted⟩
    rcases List.prefix_concat_iff.mp before with last | sooner
    · obtain ⟨rfl, hmove⟩ := List.append_inj' last rfl
      exact .inr ⟨(List.singleton_inj.mp hmove).symm, unwanted⟩
    · exact .inl ⟨earlier, sooner, unwanted⟩
  · rintro (⟨earlier, before, unwanted⟩ | ⟨rfl, unwanted⟩)
    · exact ⟨earlier, before.trans (List.prefix_append _ _), unwanted⟩
    · exact ⟨moves, List.prefix_rfl, unwanted⟩

/-! ## What holds of every vigil -/

namespace Vigil

/-- Takes up what a turn came to. -/
def take (vigil : Vigil) (turn : Turn) : Vigil where
  watch := { vigil.watch with
    supervisor := turn.next
    probes := vigil.watch.probes + turn.probed.toNat
    exits := vigil.watch.exits + turn.exited.toNat
    journal := vigil.watch.journal ++ turn.entries }
  questions := vigil.questions ++
    if turn.probed then [⟨vigil.watch.now, vigil.watch.answer⟩] else []

/-- What was answered so far, held against the moves that were made. -/
structure Observed (interval : Nat) (moves : List Watch.Move) (vigil : Vigil) : Prop where
  /-- The interval stays. -/
  steady : vigil.watch.supervisor.interval = interval
  /-- The watch is unwanted once somebody has said so. -/
  unwanted : vigil.watch.isUnwanted = true ↔ Unwanted moves
  /-- Every death was reported. -/
  exits : vigil.watch.exits = vigil.questions.countP Question.isDeath
  /-- No question follows a death. -/
  last : ∀ question ∈ vigil.questions.dropLast, question.isDeath = false
  /-- The watch ends with a death, and by a turn once it is unwanted. -/
  finished : vigil.watch.supervisor.finished = true ↔
    (∃ question ∈ vigil.questions, question.isDeath = true) ∨ Retired moves
  /-- No question came before its time. -/
  spaced : ∀ number question, vigil.questions[number]? = some question →
    (number + 1) * interval ≤ question.time
  /-- The next one is not due before its time, and an interval after the last at the latest. -/
  coming : vigil.watch.supervisor.finished = false →
    (vigil.questions.length + 1) * interval ≤ vigil.watch.supervisor.due ∧
      vigil.watch.supervisor.due ≤ vigil.lastTime + interval

namespace Observed

variable {interval : Nat} {moves : List Watch.Move} {vigil : Vigil}

/-- Nothing has happened yet. -/
theorem start (pid : Nat) (answer : Except ProbeError Bool) (positive : 0 < interval) :
    Observed interval [] (Vigil.start pid interval answer) := by
  have lasts : (interval == 0) = false := by simp; omega
  have unmoved : ¬ Retired [] := fun ⟨_, before, _⟩ => by simp at before
  refine ⟨rfl, ?_, rfl, nofun, ?_, nofun, fun _ => ⟨?_, Nat.le_refl _⟩⟩
  · simp [Vigil.start, Watch.start, Watch.isUnwanted, Supervisor.start, Unwanted]
  · simp [Vigil.start, Watch.start, Supervisor.start, lasts, unmoved]
  · simp [Vigil.start, Watch.start, Supervisor.start]

/-- As long as the watch lasts, nobody was found dead. -/
theorem alive (h : Observed interval moves vigil)
    (lasts : vigil.watch.supervisor.finished = false) :
    (∀ question ∈ vigil.questions, question.isDeath = false) ∧ ¬ Retired moves := by
  have neither := (not_congr h.finished).mp (Bool.eq_false_iff.mp lasts)
  obtain ⟨nobody, retired⟩ := not_or.mp neither
  refine ⟨fun question member => ?_, retired⟩
  exact Bool.eq_false_iff.mpr fun dead => nobody ⟨question, member, dead⟩

/-- A turn without a question, which the watch may end with. -/
theorem quiet (h : Observed interval moves vigil) (ended : Bool) (entries : List Log.Entry)
    (finished : ended = true ↔
      (∃ question ∈ vigil.questions, question.isDeath = true) ∨ Retired (moves ++ [.turn]))
    (lasted : ended = false → vigil.watch.supervisor.finished = false) :
    Observed interval (moves ++ [.turn])
      (vigil.take ⟨{ vigil.watch.supervisor with finished := ended }, false, false, entries⟩) := by
  have same : (vigil.take ⟨{ vigil.watch.supervisor with finished := ended }, false, false,
      entries⟩).questions = vigil.questions := List.append_nil _
  refine ⟨h.steady, ?_, ?_, ?_, ?_, ?_, fun lasts => ?_⟩
  · rw [unwanted_concat]
    simp only [reduceCtorEq, or_false]
    exact h.unwanted
  · rw [same]
    exact h.exits
  · rw [same]
    exact h.last
  · rw [same]
    exact finished
  · rw [same]
    exact h.spaced
  · unfold lastTime
    rw [same]
    exact h.coming (lasted lasts)

/-- A turn with a question; the watch goes on exactly if nobody was found dead. -/
theorem asks (h : Observed interval moves vigil) (due : Nat) (entries : List Log.Entry)
    (lasts : vigil.watch.supervisor.finished = false)
    (wanted : vigil.watch.isUnwanted = false)
    (came : vigil.watch.supervisor.due ≤ vigil.watch.now) (dead : Bool)
    (answer : (Question.mk vigil.watch.now vigil.watch.answer).isDeath = dead)
    (coming : dead = false → vigil.watch.supervisor.due + interval ≤ due ∧
      due ≤ vigil.watch.now + interval) :
    Observed interval (moves ++ [.turn])
      (vigil.take ⟨{ vigil.watch.supervisor with due := due, finished := dead }, true, dead,
        entries⟩) := by
  obtain ⟨nobody, unretired⟩ := h.alive lasts
  have next := (h.coming lasts).1
  have further : (vigil.take ⟨{ vigil.watch.supervisor with due := due, finished := dead }, true,
      dead, entries⟩).questions = vigil.questions ++ [⟨vigil.watch.now, vigil.watch.answer⟩] := rfl
  have unmoved : ¬ Retired (moves ++ [.turn]) := by
    rw [retired_concat, ← h.unwanted, wanted]
    simp [unretired]
  refine ⟨h.steady, ?_, ?_, ?_, ?_, fun number question found => ?_, fun goesOn => ?_⟩
  · rw [unwanted_concat]
    simp only [reduceCtorEq, or_false]
    exact h.unwanted
  · have counted : vigil.watch.exits = 0 := by
      rw [h.exits, List.countP_eq_zero]
      exact fun question member => by simp [nobody question member]
    rw [further, List.countP_append, ← h.exits]
    change vigil.watch.exits + dead.toNat = vigil.watch.exits + _
    cases dead <;> simp [answer]
  · rw [further, List.dropLast_concat]
    exact nobody
  · rw [further]
    change dead = true ↔ _
    simp only [List.mem_append, List.mem_singleton, unmoved, or_false]
    constructor
    · exact fun died => ⟨_, .inr rfl, answer.trans died⟩
    · rintro ⟨question, earlier | rfl, died⟩
      · exact absurd (nobody question earlier) (by simp [died])
      · exact answer.symm.trans died
  · rw [further] at found
    rcases Nat.lt_trichotomy number vigil.questions.length with earlier | rfl | later
    · rw [List.getElem?_append_left earlier] at found
      exact h.spaced number question found
    · rw [List.getElem?_concat_length] at found
      obtain rfl := Option.some.inj found
      exact Nat.le_trans next came
    · have bound := (List.getElem?_eq_some_iff.mp found).1
      simp at bound
      omega
  · obtain ⟨lower, upper⟩ := coming goesOn
    have last : (vigil.take ⟨{ vigil.watch.supervisor with due := due, finished := dead }, true,
        dead, entries⟩).lastTime = vigil.watch.now := by
      unfold lastTime
      rw [further, List.getLast?_concat]
      rfl
    rw [last, further, List.length_append, List.length_singleton]
    refine ⟨?_, upper⟩
    calc (vigil.questions.length + 1 + 1) * interval
        = (vigil.questions.length + 1) * interval + interval := Nat.succ_mul _ _
      _ ≤ vigil.watch.supervisor.due + interval := Nat.add_le_add_right next interval
      _ ≤ due := lower

/-- A turn of the supervisor. -/
theorem turn (h : Observed interval moves vigil) :
    Observed interval (moves ++ [.turn]) (vigil.step .turn) := by
  have turned := turn_turned vigil.watch.supervisor vigil.watch.cancelled vigil.watch.now
    vigil.watch.answer
  change Observed interval (moves ++ [.turn]) (vigil.take
    (vigil.watch.supervisor.turn vigil.watch.cancelled vigil.watch.now vigil.watch.answer))
  generalize vigil.watch.supervisor.turn vigil.watch.cancelled vigil.watch.now
    vigil.watch.answer = turn at turned
  -- To say once more whether the watch has ended changes nothing.
  have told {ended : Bool} (supervisor : Supervisor) (so : supervisor.finished = ended) :
      { supervisor with finished := ended } = supervisor := by
    rw [← so]
  cases turned with
  | finished ended =>
    have still := h.quiet true [] ?_ nofun
    · rwa [told _ ended] at still
    · simpa [retired_concat, or_assoc] using (h.finished.mp ended).imp_right Or.inl
  | retired lasts unwanted =>
    refine h.quiet true _ ?_ nofun
    simp [retired_concat, h.unwanted.mp unwanted]
  | early lasts wanted soon =>
    have still := h.quiet false [] ?_ fun _ => lasts
    · rwa [told _ lasts] at still
    · obtain ⟨nobody, unretired⟩ := h.alive lasts
      have unsaid : ¬ Unwanted moves := (not_congr h.unwanted).mp (Bool.eq_false_iff.mp wanted)
      simp only [retired_concat, unretired, unsaid, and_false, or_false, Bool.false_eq_true,
        false_iff, not_exists, not_and, Bool.not_eq_true]
      exact nobody
  | died lasts wanted due dead entries =>
    refine h.asks _ entries lasts wanted due true (Question.isDeath_iff.mpr dead) nofun
  | lives lasts wanted due alive entries =>
    have living : (Question.mk vigil.watch.now vigil.watch.answer).isDeath = false :=
      Bool.eq_false_iff.mpr ((not_congr Question.isDeath_iff).mpr alive)
    have goesOn := h.asks (vigil.watch.supervisor.following vigil.watch.now) entries lasts wanted
      due false living fun _ => ?_
    · rwa [told { vigil.watch.supervisor with
        due := vigil.watch.supervisor.following vigil.watch.now } lasts] at goesOn
    · rw [← h.steady]
      exact ⟨vigil.watch.supervisor.le_following _, vigil.watch.supervisor.following_le due⟩

/-- A move of anybody else. -/
theorem still (h : Observed interval moves vigil) {move : Watch.Move} {watch : Watch}
    (other : move ≠ .turn)
    (supervisor : watch.supervisor =
      { vigil.watch.supervisor with stopped := watch.supervisor.stopped })
    (exits : watch.exits = vigil.watch.exits)
    (unwanted : watch.isUnwanted = true ↔
      vigil.watch.isUnwanted = true ∨ move = .stop ∨ move = .cancelSession) :
    Observed interval (moves ++ [move]) ⟨watch, vigil.questions⟩ := by
  refine ⟨?_, ?_, exits.trans h.exits, h.last, ?_, h.spaced, fun lasts => ?_⟩
  · rw [supervisor]
    exact h.steady
  · rw [unwanted_concat, ← h.unwanted]
    exact unwanted
  · rw [supervisor, retired_concat]
    simpa [other] using h.finished
  · rw [supervisor] at lasts ⊢
    exact h.coming lasts

/-- Whatever move is made. -/
theorem step (h : Observed interval moves vigil) (move : Watch.Move) :
    Observed interval (moves ++ [move]) (vigil.step move) := by
  have unasked {watch : Watch} (other : Observed interval (moves ++ [move])
      ⟨watch, vigil.questions⟩) :
      Observed interval (moves ++ [move]) ⟨watch, vigil.questions ++ []⟩ := by
    rwa [List.append_nil]
  cases move with
  | turn => exact h.turn
  | pass time =>
    exact unasked (h.still (by simp) rfl rfl (by simp [Watch.isUnwanted, Watch.move]))
  | answer answer =>
    exact unasked (h.still (by simp) rfl rfl (by simp [Watch.isUnwanted, Watch.move]))
  | stop =>
    refine unasked (h.still (by simp) rfl rfl ?_)
    simp [Watch.isUnwanted, Watch.move, Supervisor.stop]
  | cancelSession =>
    exact unasked (h.still (by simp) rfl rfl (by simp [Watch.isUnwanted, Watch.move]))

/-- Whatever moves are made. -/
theorem run (h : Observed interval moves vigil) (more : List Watch.Move) :
    Observed interval (moves ++ more) (vigil.run more) := by
  induction more generalizing moves vigil with
  | nil => rwa [List.append_nil]
  | cons move rest ih =>
    have next := ih (h.step move)
    rwa [List.append_assoc] at next

/-- At most one death is reported, and it is reported exactly if it was found. -/
theorem exits_eq_one_iff (h : Observed interval moves vigil) :
    vigil.watch.exits ≤ 1 ∧
      (vigil.watch.exits = 1 ↔ ∃ question ∈ vigil.questions, question.isDeath = true) := by
  rw [h.exits]
  rcases List.eq_nil_or_concat vigil.questions with none | ⟨earlier, last, questions⟩
  · simp [none]
  · rw [List.concat_eq_append] at questions
    have nobody : earlier.countP Question.isDeath = 0 := by
      have before := h.last
      rw [questions, List.dropLast_concat] at before
      exact List.countP_eq_zero.mpr fun question member => by simp [before question member]
    have unfound : ∀ question ∈ earlier, ¬ question.isDeath = true :=
      List.countP_eq_zero.mp nobody
    rw [questions, List.countP_append, nobody, List.countP_singleton]
    cases dead : last.isDeath with
    | true => simp [dead]
    | false =>
      simp only [Bool.false_eq_true, if_false, Nat.add_zero, Nat.zero_le, Nat.zero_ne_one,
        List.mem_append, List.mem_singleton, false_iff, not_exists, not_and, true_and]
      rintro question (earlier | rfl)
      · exact unfound question earlier
      · simp [dead]

/-- Nothing is asked once the watch is unwanted. -/
theorem questions_run (h : Observed interval moves vigil) (unwanted : Unwanted moves)
    (more : List Watch.Move) : (vigil.run more).questions = vigil.questions := by
  induction more generalizing moves vigil with
  | nil => rfl
  | cons move rest ih =>
    have unasked : vigil.watch.asked move = [] := by
      have said : vigil.watch.isUnwanted = true := h.unwanted.mpr unwanted
      cases move with
      | turn => simp [Watch.asked_turn, said]
      | _ => rfl
    have same : (vigil.step move).questions = vigil.questions := by
      rw [Vigil.step, unasked, List.append_nil]
    exact (ih (h.step move) (unwanted_concat.mpr (.inl unwanted))).trans same

end Observed

end Vigil

/-- Whatever happens to a watch and whenever its supervisor has a turn: a death is reported at
most once, exactly if a question was answered so, and this question is the last one; after the
watch was stopped or the session cancelled nothing is asked and nothing reported any more; the
watch ends with the report, or by a turn after it was unwanted, and not otherwise; every
question comes an interval after the one before it at the earliest, counted from the beginning;
and a turn of a watch that goes on asks as soon as the next question is due, which it is an
interval after the last one at the latest. -/
theorem death_reported_once (pid interval : Nat) (answer : Except ProbeError Bool)
    (positive : 0 < interval) (moves : List Watch.Move) :
    let vigil := (Vigil.start pid interval answer).run moves
    vigil.watch.exits ≤ 1 ∧
    (vigil.watch.exits = 1 ↔ ∃ question ∈ vigil.questions, question.answer = .ok false) ∧
    (∀ question ∈ vigil.questions.dropLast, question.answer ≠ .ok false) ∧
    (Unwanted moves → ∀ more, (vigil.run more).questions = vigil.questions ∧
      (vigil.run more).watch.exits = vigil.watch.exits) ∧
    (vigil.watch.supervisor.finished = true ↔ vigil.watch.exits = 1 ∨ Retired moves) ∧
    (∀ number question, vigil.questions[number]? = some question →
      (number + 1) * interval ≤ question.time) ∧
    (vigil.watch.supervisor.finished = false → ¬ Unwanted moves →
      vigil.watch.supervisor.due ≤ vigil.lastTime + interval ∧
      (vigil.step .turn).questions = vigil.questions ++
        if vigil.watch.supervisor.due ≤ vigil.watch.now then
          [⟨vigil.watch.now, vigil.watch.answer⟩]
        else []) := by
  intro vigil
  have observed : Vigil.Observed interval moves vigil := by
    have course := (Vigil.Observed.start pid answer positive).run moves
    rwa [List.nil_append] at course
  obtain ⟨atMost, exactly⟩ := observed.exits_eq_one_iff
  have deaths : (∃ question ∈ vigil.questions, question.isDeath = true) ↔
      ∃ question ∈ vigil.questions, question.answer = .ok false := by
    simp only [Question.isDeath_iff]
  refine ⟨atMost, exactly.trans deaths, fun question member => ?_, fun unwanted more => ?_, ?_,
    observed.spaced, fun lasts wanted => ?_⟩
  · exact (not_congr Question.isDeath_iff).mp (Bool.eq_false_iff.mp (observed.last question member))
  · have same := observed.questions_run unwanted more
    exact ⟨same, by rw [(observed.run more).exits, same, observed.exits]⟩
  · rw [observed.finished, exactly]
  · have unsaid : vigil.watch.isUnwanted = false :=
      Bool.eq_false_iff.mpr ((not_congr observed.unwanted).mpr wanted)
    refine ⟨(observed.coming lasts).2, ?_⟩
    rw [Vigil.step, Watch.asked_turn]
    simp only [lasts, unsaid, true_and]

/-- The supervisor comes late for the first question and misses the second one; it learns
nothing by the third, and finds the process dead by the fourth. -/
def Vigil.Sample.lateTurns : List Watch.Move :=
  [.turn, .pass 25, .turn, .pass 5, .turn, .pass 5, .answer (.error (.invalidPid 7)), .turn,
    .pass 10, .answer (.ok false), .turn, .pass 10, .turn, .stop, .turn]

/-- Questions that are missed are not made up for. -/
theorem death_reported_once_to_late_turns :
    0 < 10 ∧
    ((Vigil.start 7 10 (.ok true)).run Vigil.Sample.lateTurns).questions =
      [⟨25, .ok true⟩, ⟨35, .error (.invalidPid 7)⟩, ⟨45, .ok false⟩] ∧
    ((Vigil.start 7 10 (.ok true)).run Vigil.Sample.lateTurns).watch.exits = 1 := by
  have questions : ((Vigil.start 7 10 (.ok true)).run Vigil.Sample.lateTurns).questions =
      [⟨25, .ok true⟩, ⟨35, .error (.invalidPid 7)⟩, ⟨45, .ok false⟩] := by
    rfl
  obtain ⟨-, reported, -⟩ := death_reported_once 7 10 (.ok true) (by decide) Vigil.Sample.lateTurns
  refine ⟨by decide, questions, reported.mpr ⟨⟨45, .ok false⟩, ?_, rfl⟩⟩
  rw [questions]
  simp

end LspGateway.Supervisor
