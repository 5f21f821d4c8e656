import LspGateway.Hub.Emission

/-!
# The log of a hub

While handlers are told of an event they may do anything with the hub, and what they begin is
over before the next of them is told. Steps may come up at any moment here, so that nothing is
assumed about handlers. Everything that happens is noted in a log, and whatever happens, the
hub holds just the subscriptions that were made and not removed.
-/

namespace LspGateway.Hub

/-! ## What is left to be done, and what was done -/

/-- A task, with the number of the step that it belongs to. -/
inductive Errand where
  /-- To carry out a step of a handler. -/
  | perform (name : String) (step : Step)
  /-- To tell a handler of an event, for the emission of a number. -/
  | deliver (number : Nat) (listener : Listener) (event : Event)
  /-- To note the answer to the step of a number. -/
  | answer (number : Nat) (name : String) (result : Answer)

/-- The task of an errand. -/
def Errand.task : Errand → Board.Task
  | .perform name step => .perform name step
  | .deliver _ listener event => .deliver listener event
  | .answer _ name result => .answer name result

/-- A task as an errand for the step of a number. -/
def Errand.ofTask (number : Nat) : Board.Task → Errand
  | .perform name step => .perform name step
  | .deliver listener event => .deliver number listener event
  | .answer name result => .answer number name result

/-- Nothing of a task is lost. -/
theorem Errand.task_ofTask (number : Nat) (task : Board.Task) :
    (ofTask number task).task = task := by
  cases task <;> rfl

/-- Nothing is lost of tasks. -/
theorem Errand.map_task_ofTask (number : Nat) (tasks : List Board.Task) :
    (tasks.map (ofTask number)).map task = tasks := by
  simp only [List.map_map, Function.comp_def, task_ofTask, List.map_id']

/-- What happens on a board. -/
inductive Happening where
  /-- A subscription was made. -/
  | subscribed (subscription : Subscription Listener)
  /-- Somebody asked for a subscription to be removed, and was told whether it was there. -/
  | removed (id : Nat) (was : Bool)
  /-- The emission of a number began, with those subscribed to its kind at that moment. -/
  | begun (number : Nat) (event : Event) (audience : List (Subscription Listener))
  /-- A handler was told of an event, by the emission of a number. -/
  | told (number : Nat) (listener : Listener) (event : Event)
  /-- The emission of a number was answered. -/
  | ended (number : Nat) (handlers : Nat)

/-- What happens when a step begins that is given a number. -/
def Board.happening (board : Board) (number : Nat) (step : Step) : Option Happening :=
  match step, (board.begin step).1 with
  | .subscribe kind name reaction, .subscribed id => some (.subscribed ⟨id, kind, name, reaction⟩)
  | .unsubscribe name, .unsubscribed was => (board.names.lookup name).map (.removed · was)
  | .emit event, .told _ =>
    some (.begun number event (board.hub.subscriptions.filter (·.kind == event.kind)))
  | _, _ => none

/-- What happens when an errand is done; a step is given the number. -/
def Errand.happening (board : Board) (number : Nat) : Errand → Option Happening
  | .perform _ step => board.happening number step
  | .deliver emission listener event => some (.told emission listener event)
  | .answer emission _ (.told handlers) => some (.ended emission handlers)
  | .answer _ _ _ => none

/-- What the beginning of a step that is given a number comes to, and what happens by it. -/
inductive Board.Begins (board : Board) (number : Nat) :
    Answer × Board × List Board.Task → Option Happening → Prop where
  /-- Somebody subscribes. -/
  | subscribes (kind : EventKind) (who : Listener) (names : List (String × Nat)) :
      board.Begins number
        (.subscribed (board.hub.subscribe kind who).1,
          { board with hub := (board.hub.subscribe kind who).2, names := names }, [])
        (some (.subscribed ⟨(board.hub.subscribe kind who).1, kind, who⟩))
  /-- Somebody asks for a subscription to be removed. -/
  | removes (id : Nat) :
      board.Begins number
        (.unsubscribed (board.hub.unsubscribe id).1,
          { board with hub := (board.hub.unsubscribe id).2 }, [])
        (some (.removed id (board.hub.unsubscribe id).1))
  /-- Nobody knows which subscription is meant. -/
  | unknown : board.Begins number (.unknown, board, []) none
  /-- Somebody emits an event. -/
  | emits (event : Event) (audience : List (Subscription Listener))
      (there : audience = board.hub.subscriptions.filter (·.kind == event.kind)) :
      board.Begins number
        (.told audience.length, board, audience.map fun who => .deliver who.handler event)
        (some (.begun number event audience))

/-- There is nothing else that a step may begin with. -/
theorem Board.begin_begins (board : Board) (number : Nat) (step : Step) :
    board.Begins number (board.begin step) (board.happening number step) := by
  cases step with
  | subscribe kind name reaction => exact .subscribes kind ⟨name, reaction⟩ _
  | unsubscribe name =>
    cases known : board.names.lookup name with
    | none =>
      simp only [happening, begin, known]
      exact .unknown
    | some id =>
      simp only [happening, begin, known]
      exact .removes id
  | emit event =>
    simp only [happening, begin, listeners, List.length_map, List.map_map]
    exact .emits event _ rfl

/-- A board in the course of things. -/
structure Course where
  /-- The board. -/
  board : Board
  /-- What is left to be done, the next errand first. -/
  agenda : List Errand
  /-- The number of the next step. -/
  next : Nat
  /-- What has happened, in order. -/
  log : List Happening

namespace Course

/-- Nothing was done yet. -/
def start : Course := ⟨.fresh, [], 0, []⟩

/-- What may happen next. Steps may come up at any moment, before everything that is left, so
that a handler is free to do anything whenever it is told of an event. -/
inductive Move where
  /-- The next errand is done. -/
  | work
  /-- Somebody begins a step. -/
  | begin (name : String) (step : Step)
  /-- Somebody removes the subscription of a number. -/
  | remove (id : Nat)

/-- Does the next errand. -/
def work (course : Course) : Course :=
  match course.agenda with
  | [] => course
  | errand :: rest =>
    let (board, more) := course.board.work errand.task
    { board := board
      agenda := more.map (.ofTask course.next) ++ rest
      next := course.next + 1
      log := course.log ++ (errand.happening course.board course.next).toList }

/-- Makes a move. -/
def move (course : Course) : Move → Course
  | .work => course.work
  | .begin name step => { course with agenda := .perform name step :: course.agenda }
  | .remove id =>
    let (was, hub) := course.board.hub.unsubscribe id
    { course with
      board := { course.board with hub := hub }
      log := course.log ++ [.removed id was] }

/-- Makes moves, one after the other. -/
def run (course : Course) (moves : List Move) : Course :=
  moves.foldl move course

end Course

/-! ## Reading the log -/

/-- The subscriptions that were made. -/
def issued (log : List Happening) : List (Subscription Listener) :=
  log.filterMap fun
    | .subscribed subscription => some subscription
    | _ => none

/-- The numbers of those that were removed. -/
def removals (log : List Happening) : List Nat :=
  log.filterMap fun
    | .removed id true => some id
    | _ => none

/-- The subscriptions that were made and not removed. -/
def standing (log : List Happening) : List (Subscription Listener) :=
  (issued log).filter fun subscription => !(removals log).contains subscription.id

/-- The numbers of the emissions. -/
def emissions (log : List Happening) : List Nat :=
  log.filterMap fun
    | .begun number _ _ => some number
    | _ => none

/-- Who was told of what by the emission of a number. -/
def tellings (number : Nat) (log : List Happening) : List (Listener × Event) :=
  log.filterMap fun
    | .told other listener event => if other = number then some (listener, event) else none
    | _ => none

/-- Who is still to be told of what by the emission of a number. -/
def dues (number : Nat) (agenda : List Errand) : List (Listener × Event) :=
  agenda.filterMap fun
    | .deliver other listener event => if other = number then some (listener, event) else none
    | _ => none

/-- What both the log and the notes of a board tell. -/
inductive Report where
  /-- The handler of a name was told of an event. -/
  | delivered (name : String) (event : Event)
  /-- An emission was answered: so many handlers were told. -/
  | answered (handlers : Nat)

/-- What the log tells of by a happening. -/
def Happening.report : Happening → Option Report
  | .told _ listener event => some (.delivered listener.name event)
  | .ended _ handlers => some (.answered handlers)
  | _ => none

/-- What a note tells. -/
def Note.report : Note → Option Report
  | .delivered name event => some (.delivered name event)
  | .answered _ (.told handlers) => some (.answered handlers)
  | .answered _ _ => none

/-- The notes of a board tell what the log tells, in the same order. -/
def Board.Noted (board : Board) (log : List Happening) : Prop :=
  board.notes.filterMap Note.report = log.filterMap Happening.report

section Reading

variable {log : List Happening}

/-- What becomes of the subscriptions by whatever happens. -/
theorem issued_append (log more : List Happening) :
    issued (log ++ more) = issued log ++ issued more :=
  List.filterMap_append

/-- What becomes of the removals by whatever happens. -/
theorem removals_append (log more : List Happening) :
    removals (log ++ more) = removals log ++ removals more :=
  List.filterMap_append

/-- What becomes of the tellings by whatever happens. -/
theorem tellings_append (number : Nat) (log more : List Happening) :
    tellings number (log ++ more) = tellings number log ++ tellings number more :=
  List.filterMap_append

/-- What becomes of the emissions by whatever happens. -/
theorem emissions_append (log more : List Happening) :
    emissions (log ++ more) = emissions log ++ emissions more :=
  List.filterMap_append

/-- Who is told of an event was due before. -/
theorem tellings_concat_told (log : List Happening) (number other : Nat) (listener : Listener)
    (event : Event) (rest : List Errand) :
    tellings number (log ++ [.told other listener event]) ++ dues number rest =
      tellings number log ++ dues number (.deliver other listener event :: rest) := by
  rw [tellings_append, List.append_assoc]
  unfold tellings dues
  by_cases same : other = number <;> simp [same]

/-- The tellings of an emission are those that the log says are its own. -/
theorem mem_tellings {number : Nat} {listener : Listener} {event : Event} :
    (listener, event) ∈ tellings number log ↔ .told number listener event ∈ log := by
  unfold tellings
  rw [List.mem_filterMap]
  constructor
  · rintro ⟨happening, member, here⟩
    cases happening with
    | told other =>
      obtain ⟨rfl, same⟩ := Option.ite_none_right_eq_some.mp here
      cases same
      exact member
    | _ => cases here
  · exact fun member => ⟨_, member, if_pos rfl⟩

/-- Who is due for an emission has an errand for it. -/
theorem mem_dues {agenda : List Errand} {number : Nat} {listener : Listener} {event : Event} :
    (listener, event) ∈ dues number agenda ↔ .deliver number listener event ∈ agenda := by
  unfold dues
  rw [List.mem_filterMap]
  constructor
  · rintro ⟨errand, member, here⟩
    cases errand with
    | deliver other =>
      obtain ⟨rfl, same⟩ := Option.ite_none_right_eq_some.mp here
      cases same
      exact member
    | _ => cases here
  · exact fun member => ⟨_, member, if_pos rfl⟩

/-- An emission has its number. -/
theorem mem_emissions {number : Nat} :
    number ∈ emissions log ↔ ∃ event audience, .begun number event audience ∈ log := by
  unfold emissions
  rw [List.mem_filterMap]
  constructor
  · rintro ⟨happening, member, here⟩
    cases happening with
    | begun other event audience =>
      cases here
      exact ⟨event, audience, member⟩
    | _ => cases here
  · rintro ⟨event, audience, member⟩
    exact ⟨_, member, rfl⟩

/-- An emission makes everybody due who is there, by its own number. -/
theorem dues_emission (number other : Nat) (event : Event)
    (audience : List (Subscription Listener)) (name : String) (result : Answer)
    (rest : List Errand) :
    dues number (audience.map (fun who => .deliver other who.handler event) ++
        .answer other name result :: rest) =
      (if other = number then audience.map fun who => (who.handler, event) else []) ++
        dues number rest := by
  unfold dues
  rw [List.filterMap_append, List.filterMap_map]
  congr 1
  split
  · next same =>
    simp only [Function.comp_def, same, ↓reduceIte, List.filterMap_eq_map']
  · next differ => exact List.filterMap_eq_nil_iff.mpr fun who _ => if_neg differ

/-- Whatever is done next, nobody else is due then. -/
theorem dues_of_cons {number : Nat} {errand : Errand} {rest : List Errand}
    (nobody : dues number (errand :: rest) = []) : dues number rest = [] := by
  have fewer : (dues number rest).Sublist (dues number (errand :: rest)) :=
    (List.sublist_cons_self errand rest).filterMap _
  rw [nobody] at fewer
  exact List.sublist_nil.mp fewer

end Reading

/-! ## The hub and the log -/

/-- What is said of subscriptions is true of what has happened before. -/
def Truthful (earlier : List Happening) : Happening → Prop
  | .removed id was =>
    was = true ↔ id ∈ (issued earlier).map Subscription.id ∧ id ∉ removals earlier
  | .begun _ event audience => audience = (standing earlier).filter (·.kind == event.kind)
  | .subscribed _ | .told _ _ _ | .ended _ _ => True

/-- The log of a hub. -/
structure Books (hub : Hub Listener) (log : List Happening) : Prop where
  /-- Numbers are given out in order. -/
  issued : (issued log).map Subscription.id = List.range hub.next
  /-- What was removed had been there. -/
  removals : ∀ id ∈ removals log, id < hub.next
  /-- Nothing is removed twice. -/
  once : (Hub.removals log).Nodup
  /-- The hub holds what was subscribed and not removed. -/
  standing : hub.subscriptions = standing log
  /-- What was said of subscriptions was true then. -/
  truthful : ∀ earlier happening, earlier ++ [happening] <+: log → Truthful earlier happening

namespace Books

variable {hub : Hub Listener} {log : List Happening}

/-- Nothing has happened at an empty hub. -/
theorem empty : Books .empty [] :=
  ⟨rfl, nofun, .nil, rfl, fun earlier happening before => by simp at before⟩

/-- One more thing that is true was said. -/
theorem truthful_concat (h : Books hub log) {happening : Happening}
    (so : Truthful log happening) :
    ∀ earlier last, earlier ++ [last] <+: log ++ [happening] → Truthful earlier last := by
  intro earlier last before
  rcases List.prefix_concat_iff.mp before with now | sooner
  · obtain ⟨rfl, hlast⟩ := List.append_inj' now rfl
    obtain rfl := List.singleton_inj.mp hlast
    exact so
  · exact h.truthful earlier last sooner

/-- A subscription is held if its number was given out and it was not removed. -/
theorem holds_iff (h : Books hub log) (id : Nat) :
    hub.holds id = true ↔
      id ∈ (Hub.issued log).map Subscription.id ∧ id ∉ Hub.removals log := by
  simp only [holds, h.standing, Hub.standing, List.any_filter, List.any_eq_true, Bool.and_eq_true,
    Bool.not_eq_true', List.contains_eq_mem, decide_eq_false_iff_not, beq_iff_eq, List.mem_map]
  constructor
  · rintro ⟨subscription, member, stays, rfl⟩
    exact ⟨⟨subscription, member, rfl⟩, stays⟩
  · rintro ⟨⟨subscription, member, rfl⟩, stays⟩
    exact ⟨subscription, member, stays, rfl⟩

/-- At any time subscriptions stand in the order of their numbers. -/
theorem pairwise (h : Books hub log) {earlier : List Happening} (before : earlier <+: log) :
    (Hub.standing earlier).Pairwise (·.id < ·.id) := by
  have ordered : ((Hub.issued log).map Subscription.id).Pairwise (· < ·) := by
    rw [h.issued]
    exact List.pairwise_lt_range
  have fewer : (Hub.issued earlier).Sublist (Hub.issued log) := before.sublist.filterMap _
  exact ((List.pairwise_map.mp ordered).sublist fewer).filter _

/-- Somebody subscribes. -/
theorem subscribe (h : Books hub log) (kind : EventKind) (who : Listener) :
    Books (hub.subscribe kind who).2
      (log ++ [.subscribed ⟨(hub.subscribe kind who).1, kind, who⟩]) := by
  have same : Hub.removals (log ++ [.subscribed ⟨hub.next, kind, who⟩]) = Hub.removals log := by
    rw [removals_append]
    exact List.append_nil _
  have further : Hub.issued (log ++ [.subscribed ⟨hub.next, kind, who⟩]) =
      Hub.issued log ++ [⟨hub.next, kind, who⟩] := issued_append _ _
  refine ⟨?_, fun id member => ?_, ?_, ?_, h.truthful_concat trivial⟩
  · change (Hub.issued (log ++ [.subscribed ⟨hub.next, kind, who⟩])).map _ =
      List.range (hub.next + 1)
    rw [further, List.map_append, h.issued, List.range_succ]
    rfl
  · exact Nat.lt_succ_of_lt (h.removals id (same ▸ member))
  · exact same ▸ h.once
  · have unremoved : hub.next ∉ Hub.removals log := fun member =>
      Nat.lt_irrefl _ (h.removals _ member)
    change hub.subscriptions ++ [⟨hub.next, kind, who⟩] =
      Hub.standing (log ++ [.subscribed ⟨hub.next, kind, who⟩])
    rw [Hub.standing, further, same, List.filter_append, h.standing]
    simp [Hub.standing, unremoved]

/-- Somebody asks for a subscription to be removed. -/
theorem unsubscribe (h : Books hub log) (id : Nat) :
    Books (hub.unsubscribe id).2 (log ++ [.removed id (hub.unsubscribe id).1]) := by
  have same : Hub.issued (log ++ [.removed id (hub.holds id)]) = Hub.issued log := by
    rw [issued_append]
    exact List.append_nil _
  have held := h.holds_iff id
  have further : Hub.removals (log ++ [.removed id (hub.holds id)]) =
      Hub.removals log ++ if hub.holds id then [id] else [] := by
    rw [removals_append]
    cases hub.holds id <;> rfl
  refine ⟨?_, fun other member => ?_, ?_, ?_, h.truthful_concat held⟩
  · change (Hub.issued (log ++ [.removed id (hub.holds id)])).map _ = _
    rw [same]
    exact h.issued
  · change other ∈ Hub.removals (log ++ [.removed id (hub.holds id)]) at member
    rw [further, List.mem_append] at member
    rcases member with earlier | now
    · exact h.removals other earlier
    · split at now
      · next was =>
        have given := (held.mp was).1
        rw [h.issued, List.mem_range] at given
        exact List.mem_singleton.mp now ▸ given
      · cases now
  · change (Hub.removals (log ++ [.removed id (hub.holds id)])).Nodup
    rw [further]
    split
    · next was =>
      rw [List.nodup_append]
      refine ⟨h.once, by simp, fun other earlier last now => ?_⟩
      obtain rfl := List.mem_singleton.mp now
      exact fun again => (held.mp was).2 (again ▸ earlier)
    · rw [List.append_nil]
      exact h.once
  · change hub.subscriptions.filter (fun subscription => subscription.id != id) =
      Hub.standing (log ++ [.removed id (hub.holds id)])
    rw [Hub.standing, same, further]
    split
    · rw [h.standing, Hub.standing, List.filter_filter]
      refine List.filter_congr fun subscription _ => ?_
      by_cases gone : subscription.id = id <;> simp [gone]
    · next absent =>
      rw [List.append_nil]
      refine (List.filter_eq_self.mpr fun subscription member => ?_).trans h.standing
      have other : subscription.id ≠ id := fun same =>
        absent (List.any_eq_true.mpr ⟨subscription, member, beq_iff_eq.mpr same⟩)
      exact bne_iff_ne.mpr other

/-- Something else has happened. -/
theorem concat (h : Books hub log) {happening : Happening} (made : Hub.issued [happening] = [])
    (left : Hub.removals [happening] = []) (so : Truthful log happening) :
    Books hub (log ++ [happening]) := by
  have issued : Hub.issued (log ++ [happening]) = Hub.issued log := by
    rw [issued_append, made, List.append_nil]
  have removals : Hub.removals (log ++ [happening]) = Hub.removals log := by
    rw [removals_append, left, List.append_nil]
  refine ⟨issued ▸ h.issued, removals ▸ h.removals, removals ▸ h.once, ?_, h.truthful_concat so⟩
  rw [Hub.standing, issued, removals]
  exact h.standing

end Books

end LspGateway.Hub
