import LspGateway.Proofs.Hub.Ledger

/-!
# Deliveries

Whatever handlers do while they are told of an event, every emission reaches those who were
subscribed when it began, each once and in the order of their subscriptions, and is answered by
their number.
-/

namespace LspGateway.Hub

/-! ## What is in hand -/

/-- Once an emission is answered nobody is left to be told. -/
def Errand.MayPrecede (first second : Errand) : Prop :=
  ∀ number name result listener event,
    first = .answer number name result → second ≠ .deliver number listener event

/-- Every emission has told or has still to tell everybody who was there when it began, and
nobody else. -/
structure InHand (next : Nat) (agenda : List Errand) (log : List Happening) : Prop where
  /-- Numbers are given out in order. -/
  past : ∀ number ∈ emissions log, number < next
  /-- Every emission has a number of its own. -/
  single : (emissions log).Nodup
  /-- Nobody is forgotten. -/
  whole : ∀ number event audience, .begun number event audience ∈ log →
    tellings number log ++ dues number agenda = audience.map fun who => (who.handler, event)
  /-- Nobody is told of an event that was not emitted. -/
  told : ∀ number, tellings number log ++ dues number agenda ≠ [] → number ∈ emissions log
  /-- An emission will be answered by the number of those who were there. -/
  answers : ∀ number name handlers, .answer number name (.told handlers) ∈ agenda →
    ∃ event audience, .begun number event audience ∈ log ∧ handlers = audience.length
  /-- It is answered last. -/
  last : agenda.Pairwise Errand.MayPrecede
  /-- An emission that was answered is over. -/
  ended : ∀ number handlers, .ended number handlers ∈ log →
    dues number agenda = [] ∧
      ∃ event audience, .begun number event audience ∈ log ∧ handlers = audience.length

namespace InHand

variable {next : Nat} {agenda rest : List Errand} {log : List Happening}

/-- Nothing is to be done. -/
theorem start : InHand 0 [] [] :=
  ⟨nofun, .nil, nofun, fun _ some => absurd rfl some, nofun, .nil, nofun⟩

/-- Nobody is due by a number that was not given out. -/
theorem fresh (h : InHand next agenda log) {number : Nat} (later : next ≤ number) :
    tellings number log = [] ∧ dues number agenda = [] := by
  have nothing : tellings number log ++ dues number agenda = [] := by
    refine Decidable.byContradiction fun some => ?_
    have earlier := h.past number (h.told number some)
    omega
  exact List.append_eq_nil_iff.mp nothing

/-- An emission that has begun is an earlier one. -/
theorem begun_lt (h : InHand next agenda log) {number : Nat} {event : Event}
    {audience : List (Subscription Listener)} (begun : .begun number event audience ∈ log) :
    number < next :=
  h.past number (mem_emissions.mpr ⟨event, audience, begun⟩)

/-- Somebody begins steps. -/
theorem steps (h : InHand next agenda log) (name : String) (steps : List Step) :
    InHand next (steps.map (.perform name) ++ agenda) log := by
  induction steps with
  | nil => exact h
  | cons step rest ih =>
    refine ⟨ih.past, ih.single, ih.whole, ih.told, fun number name handlers member => ?_, ?_,
      ih.ended⟩
    · exact ih.answers number name handlers ((List.mem_cons.mp member).resolve_left nofun)
    · exact List.pairwise_cons.mpr ⟨fun _ _ _ _ _ _ _ first => (by cases first), ih.last⟩

/-- A step is no emission by itself. -/
theorem of_step {name : String} {step : Step} (h : InHand next (.perform name step :: rest) log) :
    InHand next rest log :=
  ⟨h.past, h.single, h.whole, h.told, fun number name handlers member =>
    h.answers number name handlers (List.mem_cons_of_mem _ member),
    (List.pairwise_cons.mp h.last).2, h.ended⟩

/-- Numbers are left out. -/
theorem later (h : InHand next agenda log) : InHand (next + 1) agenda log :=
  { h with past := fun number member => Nat.lt_succ_of_lt (h.past number member) }

/-- Something happens by which no emission begins. -/
theorem concat (h : InHand next agenda log) {after : List Errand} {happening : Happening}
    (unbegun : ∀ number event audience, happening ≠ .begun number event audience)
    (same : ∀ number, tellings number (log ++ [happening]) ++ dues number after =
      tellings number log ++ dues number agenda)
    (fewer : ∀ number, dues number agenda = [] → dues number after = [])
    (answers : ∀ number name handlers, .answer number name (.told handlers) ∈ after →
      .answer number name (.told handlers) ∈ agenda)
    (last : after.Pairwise Errand.MayPrecede)
    (ended : ∀ number handlers, happening = .ended number handlers →
      dues number after = [] ∧ ∃ name, .answer number name (.told handlers) ∈ agenda) :
    InHand next after (log ++ [happening]) := by
  have begun (number : Nat) (event : Event) (audience : List (Subscription Listener)) :
      .begun number event audience ∈ log ++ [happening] ↔ .begun number event audience ∈ log := by
    rw [List.mem_append, List.mem_singleton]
    exact or_iff_left fun now => unbegun number event audience now.symm
  have numbers : emissions (log ++ [happening]) = emissions log := by
    rw [emissions_append]
    cases happening with
    | begun _ => exact absurd rfl (unbegun _ _ _)
    | _ => exact List.append_nil _
  refine ⟨numbers ▸ h.past, numbers ▸ h.single, fun number event audience now => ?_,
    fun number some => ?_, fun number name handlers member => ?_, last,
    fun number handlers now => ?_⟩
  · rw [same]
    exact h.whole number event audience ((begun number event audience).mp now)
  · rw [same] at some
    exact numbers ▸ h.told number some
  · simp only [begun]
    exact h.answers number name handlers (answers number name handlers member)
  · simp only [begun]
    rcases List.mem_append.mp now with earlier | last
    · obtain ⟨nobody, known⟩ := h.ended number handlers earlier
      exact ⟨fewer number nobody, known⟩
    · obtain ⟨nobody, name, member⟩ := ended number handlers (List.mem_singleton.mp last).symm
      exact ⟨nobody, h.answers number name handlers member⟩

/-- Somebody subscribes, or a subscription is removed. -/
theorem aside (h : InHand next agenda log) {happening : Happening}
    (aside : (∃ subscription, happening = .subscribed subscription) ∨
      ∃ id was, happening = .removed id was) :
    InHand next agenda (log ++ [happening]) := by
  obtain ⟨subscription, rfl⟩ | ⟨id, was, rfl⟩ := aside
  all_goals
    exact h.concat nofun (fun number => by rw [tellings_append]; simp [tellings])
      (fun _ nobody => nobody) (fun _ _ _ member => member) h.last nofun

/-- The next handler is told of an event. -/
theorem tell {number : Nat} {listener : Listener} {event : Event}
    (h : InHand next (.deliver number listener event :: rest) log) :
    InHand next rest (log ++ [.told number listener event]) :=
  h.concat nofun (fun other => tellings_concat_told log other number listener event rest)
    (fun _ => dues_of_cons) (fun _ _ _ => List.mem_cons_of_mem _) (List.pairwise_cons.mp h.last).2
    nofun

/-- An emission is answered when everybody was told. -/
theorem answer {number : Nat} {name : String} {handlers : Nat}
    (h : InHand next (.answer number name (.told handlers) :: rest) log) :
    InHand next rest (log ++ [.ended number handlers]) := by
  obtain ⟨first, last⟩ := List.pairwise_cons.mp h.last
  refine h.concat nofun (fun other => by rw [tellings_append]; simp [tellings, dues])
    (fun _ => dues_of_cons) (fun _ _ _ => List.mem_cons_of_mem _) last fun other count now => ?_
  cases now
  refine ⟨List.eq_nil_iff_forall_not_mem.mpr fun (listener, event) due => ?_, name,
    List.mem_cons_self⟩
  exact first _ (mem_dues.mp due) number name _ listener event rfl rfl

/-- Any other step is answered. -/
theorem of_answer {number : Nat} {name : String} {result : Answer}
    (h : InHand next (.answer number name result :: rest) log) : InHand next rest log :=
  ⟨h.past, h.single, h.whole, h.told, fun number name handlers member =>
    h.answers number name handlers (List.mem_cons_of_mem _ member),
    (List.pairwise_cons.mp h.last).2, h.ended⟩

/-- Nothing was told yet by a step that begins. -/
theorem pairwise_answer (h : InHand next agenda log) (name : String) (result : Answer) :
    (Errand.answer next name result :: agenda).Pairwise Errand.MayPrecede := by
  refine List.pairwise_cons.mpr ⟨fun second member _ _ _ listener event first due => ?_, h.last⟩
  cases first
  cases due
  have nobody := (h.fresh (Nat.le_refl next)).2
  exact List.not_mem_nil (nobody ▸ mem_dues.mpr member)

/-- A step begins that is no emission. -/
theorem begin (h : InHand next agenda log) (name : String) (result : Answer)
    (other : ∀ handlers, result ≠ .told handlers) :
    InHand (next + 1) (.answer next name result :: agenda) log := by
  refine ⟨h.later.past, h.single, h.whole, h.told, fun number name handlers member => ?_,
    h.pairwise_answer _ _, h.ended⟩
  refine h.answers number name handlers ((List.mem_cons.mp member).resolve_left fun first => ?_)
  cases first
  exact other handlers rfl

/-- An emission begins. -/
theorem emit (h : InHand next agenda log) (name : String) (event : Event)
    (audience : List (Subscription Listener)) :
    InHand (next + 1)
      (audience.map (fun who => .deliver next who.handler event) ++
        .answer next name (.told audience.length) :: agenda)
      (log ++ [.begun next event audience]) := by
  obtain ⟨untold, nobody⟩ := h.fresh (Nat.le_refl next)
  have numbers : emissions (log ++ [.begun next event audience]) = emissions log ++ [next] :=
    emissions_append _ _
  have tellings (number : Nat) : tellings number (log ++ [.begun next event audience]) =
      tellings number log := (tellings_append _ _ _).trans (List.append_nil _)
  refine ⟨fun number member => ?_, ?_, fun number other others begun => ?_, fun number some => ?_,
    fun number name handlers member => ?_, ?_, fun number handlers ended => ?_⟩
  · rw [numbers, List.mem_append, List.mem_singleton] at member
    rcases member with earlier | rfl
    · exact Nat.lt_succ_of_lt (h.past number earlier)
    · exact Nat.lt_succ_self _
  · rw [numbers, List.nodup_append]
    refine ⟨h.single, by simp, fun number earlier last now => ?_⟩
    obtain rfl := List.mem_singleton.mp now
    exact Nat.ne_of_lt (h.past number earlier)
  · rw [tellings, dues_emission]
    rcases List.mem_append.mp begun with earlier | now
    · rw [if_neg (Nat.ne_of_gt (h.begun_lt earlier))]
      exact h.whole number other others earlier
    · cases List.mem_singleton.mp now
      simp [untold, nobody]
  · rw [tellings, dues_emission] at some
    rw [numbers, List.mem_append, List.mem_singleton]
    by_cases same : next = number
    · exact .inr same.symm
    · rw [if_neg same] at some
      exact .inl (h.told number some)
  · simp only [List.mem_append, List.mem_cons, List.mem_map, reduceCtorEq, and_false, exists_false,
      false_or, Errand.answer.injEq, Answer.told.injEq] at member
    rcases member with ⟨rfl, rfl, rfl⟩ | earlier
    · exact ⟨event, audience, List.mem_append_right _ List.mem_cons_self, rfl⟩
    · obtain ⟨other, others, begun, counted⟩ := h.answers number name handlers earlier
      exact ⟨other, others, List.mem_append_left _ begun, counted⟩
  · refine List.pairwise_append.mpr ⟨?_, h.pairwise_answer _ _, fun first member => ?_⟩
    · refine List.pairwise_map.mpr (List.pairwise_of_forall fun _ _ => ?_)
      exact fun _ _ _ _ _ first => (by cases first)
    · obtain ⟨who, -, rfl⟩ := List.mem_map.mp member
      exact fun _ _ _ _ _ _ _ first => (by cases first)
  · have earlier : .ended number handlers ∈ log := by simpa using ended
    obtain ⟨past, other, others, begun, counted⟩ := h.ended number handlers earlier
    refine ⟨?_, other, others, List.mem_append_left _ begun, counted⟩
    rw [dues_emission, if_neg (Nat.ne_of_gt (h.begun_lt begun))]
    exact past

end InHand

/-! ## The notes -/

/-- A note is added at the end. -/
theorem Board.notes_note (board : Board) (note : Note) :
    (board.note note).notes = board.notes ++ [note] :=
  List.reverse_cons

namespace Board.Noted

variable {board : Board} {log : List Happening}

/-- Something happens and is noted down. -/
theorem note (h : board.Noted log) {note : Note} {happening : Happening}
    (same : note.report = happening.report) : (board.note note).Noted (log ++ [happening]) := by
  rw [Noted, notes_note, List.filterMap_append, List.filterMap_append, h]
  simp only [List.filterMap_cons, same, List.filterMap_nil]

/-- Something is noted down that the log does not tell of. -/
theorem unlogged (h : board.Noted log) {note : Note} (untold : note.report = none) :
    (board.note note).Noted log := by
  rw [Noted, notes_note, List.filterMap_append, List.filterMap_cons_none untold,
    List.filterMap_nil, List.append_nil]
  exact h

/-- Something happens that no note tells of. -/
theorem unnoted (h : board.Noted log) {after : Board} {happening : Happening}
    (notes : after.notes = board.notes) (untold : happening.report = none) :
    after.Noted (log ++ [happening]) := by
  rw [Noted, notes, List.filterMap_append, List.filterMap_cons_none untold, List.filterMap_nil,
    List.append_nil]
  exact h

end Board.Noted

/-! ## Runs -/

namespace Course

/-- The log is true, and everybody is told of what is emitted. -/
structure Sound (course : Course) : Prop where
  /-- The log is that of the hub. -/
  books : Books course.board.hub course.log
  /-- What is left to be done is what the log leaves open. -/
  inHand : InHand course.next course.agenda course.log
  /-- The notes tell what the log tells. -/
  noted : course.board.Noted course.log

namespace Sound

variable {course : Course}

/-- Nothing has happened. -/
theorem unlogged {board : Board} {agenda : List Errand} {next : Nat} {log : List Happening}
    (h : Sound ⟨board, agenda, next, log⟩) :
    Sound ⟨board, agenda, next, log ++ (none : Option Happening).toList⟩ := by
  rwa [Option.toList_none, List.append_nil]

/-- A step is begun. -/
theorem perform (board : Board) {rest : List Errand} {next : Nat} {log : List Happening}
    (books : Books board.hub log) (inHand : InHand next rest log) (noted : board.Noted log)
    (name : String) (step : Step) :
    (work ⟨board, .perform name step :: rest, next, log⟩).Sound := by
  have begins := board.begin_begins next step
  unfold work
  simp only [Errand.task, Errand.happening, Board.work]
  generalize board.begin step = begun, board.happening next step = happening at begins
  cases begins with
  | subscribes kind who names =>
    exact ⟨books.subscribe kind who,
      (inHand.begin name (.subscribed _) nofun).aside (.inl ⟨_, rfl⟩), noted.unnoted rfl rfl⟩
  | removes id =>
    exact ⟨books.unsubscribe id,
      (inHand.begin name (.unsubscribed _) nofun).aside (.inr ⟨id, _, rfl⟩),
      noted.unnoted rfl rfl⟩
  | unknown => exact unlogged ⟨books, inHand.begin name .unknown nofun, noted⟩
  | emits event audience there =>
    have truthful : Truthful log (.begun next event audience) := by
      rw [Truthful, there, books.standing]
    refine ⟨books.concat rfl rfl truthful, ?_, noted.unnoted rfl rfl⟩
    have begun := inHand.emit name event audience
    simpa [Errand.ofTask, Function.comp_def] using begun

/-- The next errand is done. -/
theorem work (h : course.Sound) : course.work.Sound := by
  obtain ⟨board, agenda, next, log⟩ := course
  obtain ⟨books, inHand, noted⟩ := h
  cases agenda with
  | nil => exact ⟨books, inHand, noted⟩
  | cons errand rest =>
    cases errand with
    | perform name step => exact perform board books inHand.of_step noted name step
    | deliver number listener event =>
      refine ⟨books.concat rfl rfl trivial, ?_,
        noted.note rfl⟩
      have told := inHand.tell.later.steps listener.name listener.reaction
      simpa [Course.work, Errand.task, Errand.happening, Board.work, Errand.ofTask,
        Function.comp_def] using told
    | answer number name result =>
      cases result with
      | told handlers =>
        exact ⟨books.concat rfl rfl trivial, inHand.answer.later,
          noted.note rfl⟩
      | _ => exact unlogged ⟨books, inHand.of_answer.later, noted.unlogged rfl⟩

/-- Whatever move is made. -/
theorem move (h : course.Sound) (move : Move) : (course.move move).Sound := by
  cases move with
  | work => exact h.work
  | begin name step => exact ⟨h.books, h.inHand.steps name [step], h.noted⟩
  | remove id =>
    exact ⟨h.books.unsubscribe id, h.inHand.aside (.inr ⟨id, _, rfl⟩), h.noted.unnoted rfl rfl⟩

/-- Whatever moves are made. -/
theorem run (h : course.Sound) (moves : List Move) : (course.run moves).Sound := by
  induction moves generalizing course with
  | nil => exact h
  | cons move rest ih => exact ih (h.move move)

/-- Nothing was done yet. -/
theorem start : Course.start.Sound :=
  ⟨.empty, .start, rfl⟩

end Sound

/-- Working off an agenda is to do one errand after the other. -/
theorem exists_run_work (fuel : Nat) (course : Course) (pending rest : List Errand)
    (agenda : course.agenda = pending ++ rest) :
    ∃ count left, (course.run (.replicate count .work)).agenda = left ++ rest ∧
      Agenda.run Board.work fuel (pending.map Errand.task) course.board =
        ((course.run (.replicate count .work)).board, left.map Errand.task) := by
  refine Agenda.exists_steps Board.work Course.agenda Course.board Errand.task Course.work
    (fun count course => course.run (.replicate count .work)) (fun _ => rfl) (fun _ _ => rfl)
    (fun course errand rest here => ?_) fuel course pending rest agenda
  obtain ⟨board, _, next, log⟩ := course
  subst here
  let more := (board.work errand.task).2
  exact ⟨more.map (.ofTask next), rfl, by rw [Errand.map_task_ofTask]; rfl⟩

/-- A step that comes to its end is a run of moves: whatever it leads to is done before
anything else, and then its answer is there. -/
theorem exists_run (course : Course) (name : String) {step : Step} {answer : Answer}
    {board : Board} (ends : course.board.run step = some (answer, board)) :
    ∃ count, (course.run (.begin name step :: .replicate count .work)).board = board ∧
      (course.run (.begin name step :: .replicate count .work)).agenda =
        .answer course.next name answer :: course.agenda := by
  let begun := course.board.begin step
  let started := (course.move (.begin name step)).work
  have agenda : started.agenda = begun.2.2.map (.ofTask course.next) ++
      .answer course.next name begun.1 :: course.agenda := by
    simp [started, begun, move, work, Errand.task, Board.work, Errand.ofTask]
  obtain ⟨count, left, hagenda, hrun⟩ := exists_run_work Agenda.patience started _ _ agenda
  rw [Errand.map_task_ofTask] at hrun
  change Agenda.run Board.work Agenda.patience begun.2.2 begun.2.1 = _ at hrun
  refine ⟨count + 1, ?_⟩
  change (started.run (.replicate count .work)).board = board ∧
    (started.run (.replicate count .work)).agenda = _
  simp only [Board.run] at ends
  rw [show Agenda.run Board.work Agenda.patience (course.board.begin step).2.2
    (course.board.begin step).2.1 = _ from hrun] at ends
  cases left with
  | nil =>
    obtain ⟨rfl, rfl⟩ := Prod.mk.inj (Option.some.inj ends)
    exact ⟨rfl, hagenda⟩
  | cons _ _ => cases ends

end Course

/-- Whatever handlers do while they are told of an event: subscriptions are numbered one after
the other; to remove one has an effect exactly if it was made and not removed yet, and so once;
for every kind the hub counts those that were made and not removed; every emission tells of its
event those who were subscribed to the kind when it began, in the order of their numbers and
each once, and when it is answered, which is by their number, nobody is left out; and nobody is
told otherwise. The notes tell of just those handlers and those answers, in the order of the
log. A step that comes to its end is a run of such moves. -/
theorem delivered_to_subscribers (moves : List Course.Move) :
    let course := Course.start.run moves
    (issued course.log).map Subscription.id = List.range (issued course.log).length ∧
    (∀ earlier id was, earlier ++ [.removed id was] <+: course.log →
      (was = true ↔ id ∈ (issued earlier).map Subscription.id ∧ id ∉ removals earlier)) ∧
    (removals course.log).Nodup ∧
    (∀ kind, course.board.hub.count kind =
      ((standing course.log).filter (·.kind == kind)).length) ∧
    (emissions course.log).Nodup ∧
    (∀ earlier number event audience,
      earlier ++ [.begun number event audience] <+: course.log →
        audience = (standing earlier).filter (·.kind == event.kind) ∧
        audience.Pairwise (·.id < ·.id) ∧
        tellings number course.log <+: audience.map (fun who => (who.handler, event)) ∧
        ∀ handlers, .ended number handlers ∈ course.log →
          handlers = audience.length ∧
          tellings number course.log = audience.map fun who => (who.handler, event)) ∧
    (∀ number listener event, .told number listener event ∈ course.log →
      ∃ audience, .begun number event audience ∈ course.log) ∧
    course.board.notes.filterMap Note.report = course.log.filterMap Happening.report ∧
    ∀ name step answer board, course.board.run step = some (answer, board) →
      ∃ count, (course.run (.begin name step :: .replicate count .work)).board = board ∧
        (course.run (.begin name step :: .replicate count .work)).agenda =
          .answer course.next name answer :: course.agenda := by
  intro course
  obtain ⟨books, inHand, noted⟩ : course.Sound := Course.Sound.start.run moves
  refine ⟨?_, fun earlier id was before => books.truthful earlier _ before, books.once,
    fun kind => ?_, inHand.single, fun earlier number event audience before => ?_,
    fun number listener event told => ?_, noted, fun name _ _ _ => course.exists_run name⟩
  · have next : (issued course.log).length = course.board.hub.next := by
      have lengths := congrArg List.length books.issued
      rwa [List.length_map, List.length_range] at lengths
    rw [next]
    exact books.issued
  · rw [count, listeners, List.length_map, books.standing]
  · have there : audience = (standing earlier).filter (·.kind == event.kind) :=
      books.truthful earlier _ before
    have begun : .begun number event audience ∈ course.log :=
      before.subset (List.mem_append_right _ List.mem_cons_self)
    have whole := inHand.whole number event audience begun
    refine ⟨there, ?_, ⟨_, whole⟩, fun handlers ended => ?_⟩
    · rw [there]
      exact (books.pairwise ((List.prefix_append earlier _).trans before)).filter _
    · obtain ⟨nobody, other, others, again, rfl⟩ := inHand.ended number handlers ended
      have same := inHand.whole number other others again
      rw [nobody, List.append_nil] at whole same
      have lengths := congrArg List.length (same.symm.trans whole)
      rw [List.length_map, List.length_map] at lengths
      exact ⟨lengths, whole⟩
  · have due := List.mem_append_left (dues number course.agenda) (mem_tellings.mpr told)
    obtain ⟨other, audience, begun⟩ :=
      mem_emissions.mp (inHand.told number (List.ne_nil_of_mem due))
    rw [inHand.whole number other audience begun] at due
    obtain ⟨who, -, same⟩ := List.mem_map.mp due
    cases same
    exact ⟨audience, begun⟩

namespace Sample

/-- An event without content. -/
def event (kind : EventKind) : Event := ⟨kind, .null⟩

/-- The first of two handlers removes the second, subscribes a third and publishes another
event, about which a fourth is told. -/
def meddling : List Course.Move :=
  [.begin "" (.subscribe .logMessage "first"
      [.unsubscribe "second", .subscribe .logMessage "third" [], .emit (event .telemetry)]),
    .work, .work,
    .begin "" (.subscribe .logMessage "second" []), .work, .work,
    .begin "" (.subscribe .telemetry "fourth" []), .work, .work,
    .begin "" (.emit (event .logMessage))] ++ .replicate 11 .work

end Sample

/-- The second handler is told although it was removed meanwhile, and the third is not. The
emission that the first began is over before the second is told. -/
example :
    let course := Course.start.run Sample.meddling
    (issued course.log).map (fun who => who.handler.name) =
        ["first", "second", "fourth", "third"] ∧
      removals course.log = [1] ∧ emissions course.log = [6, 12] ∧
      (tellings 6 course.log).map (fun told => told.1.name) = ["first", "second"] ∧
      (tellings 12 course.log).map (fun told => told.1.name) = ["fourth"] ∧
      course.board.hub.count .logMessage = 2 := by
  decide +kernel

end LspGateway.Hub
