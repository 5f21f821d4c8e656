import LspGateway.Engine.Interface

/-!
# Engines that keep a record

A recording engine answers as another one does and notes beside it, in the order
in which they begin, the calls that it is asked for, whether each was cancelled
when it began, and how it ended; and that it is disposed of. What is to be said
of the calls that a gateway makes is said of this record.
-/

namespace LspGateway.Engine

/-- What an engine was asked for. -/
inductive Entry where
  /-- A call, whether it was cancelled at its beginning, and how it has ended. -/
  | call (call : Call) (cancelled : Option Bool) (outcome : Option Outcome)
  /-- To dispose of itself. -/
  | disposal

/-- A state of an engine, and what it was asked for. -/
structure Recorded (state : Type) where
  /-- The state. -/
  engine : state
  /-- What was asked for, in order. -/
  record : List Entry

namespace Entry

/-- Notes how a call has ended. -/
def settle (outcome : Outcome) : Entry → Entry
  | .call asked cancelled _ => .call asked cancelled (some outcome)
  | .disposal => .disposal

/-- The call of an entry, and whether it was cancelled at its beginning; nothing
for the disposal. -/
def asked? : Entry → Option (Call × Option Bool)
  | .call asked cancelled _ => some (asked, cancelled)
  | .disposal => none

/-- What was asked for does not depend on how it ends. -/
theorem asked?_settle (outcome : Outcome) (entry : Entry) :
    (entry.settle outcome).asked? = entry.asked? := by
  cases entry <;> rfl

end Entry

variable {state pending : Type}

/-- Notes what a turn of the call with a number comes to. -/
def noteTurn (record : List Entry) (number : Nat) (answer : state × Turn pending) :
    Recorded state × Turn (Nat × pending) :=
  match answer.2.progress with
  | .done outcome =>
    (⟨answer.1, record.modify number (Entry.settle outcome)⟩, ⟨answer.2.events, .done outcome⟩)
  | .waiting call => (⟨answer.1, record⟩, ⟨answer.2.events, .waiting (number, call)⟩)

/-- The engine that answers as another one does and keeps a record. -/
def recording (m : Engine state pending) : Engine (Recorded state) (Nat × pending) where
  begin := fun call cancelled recorded =>
    noteTurn (recorded.record ++ [.call call cancelled none]) recorded.record.length
      (m.begin call cancelled recorded.engine)
  resume := fun call cancelled recorded =>
    noteTurn recorded.record call.1 (m.resume call.2 cancelled recorded.engine)
  dispose := fun recorded =>
    (⟨(m.dispose recorded.engine).1, recorded.record ++ [.disposal]⟩, (m.dispose recorded.engine).2)

/-- A call that waits keeps its number. -/
theorem noteTurn_waiting {record : List Entry} {number : Nat} {answer : state × Turn pending}
    {call : Nat × pending} (h : (noteTurn record number answer).2.progress = .waiting call) :
    call.1 = number ∧ (noteTurn record number answer).1.record = record := by
  unfold noteTurn at h ⊢
  cases hp : answer.2.progress with
  | done outcome =>
    rw [hp] at h
    exact absurd h (by simp)
  | waiting inner =>
    rw [hp] at h
    exact ⟨(congrArg Prod.fst (Progress.waiting.inj h)).symm, rfl⟩

/-- How a call ends is noted at its number. -/
theorem noteTurn_done {record : List Entry} {number : Nat} {answer : state × Turn pending}
    {outcome : Outcome} (h : (noteTurn record number answer).2.progress = .done outcome) :
    (noteTurn record number answer).1.record = record.modify number (Entry.settle outcome) := by
  unfold noteTurn at h ⊢
  cases hp : answer.2.progress with
  | done inner =>
    rw [hp] at h
    rw [← Progress.done.inj h]
  | waiting inner =>
    rw [hp] at h
    exact absurd h (by simp)

/-! ## Records -/

/-- A number is that of a call of an operation. -/
def Entered (record : List Entry) (number : Nat) (operation : Operation) : Prop :=
  ∃ call cancelled outcome, record[number]? = some (.call call cancelled outcome) ∧
    call.operation = operation

/-- The confirmation of the handshake has ended. -/
def Confirmed (record : List Entry) : Prop :=
  ∃ (number : Nat) (call : Call) (cancelled : Option Bool) (outcome : Outcome),
    record[number]? = some (.call call cancelled (some outcome)) ∧ call.operation = .confirmation

/-- One record has come of another: entries stay in their places, and calls that
have ended have ended. -/
def Continues (before after : List Entry) : Prop :=
  ∀ (number : Nat) (call : Call) (cancelled : Option Bool) (outcome : Option Outcome),
    before[number]? = some (.call call cancelled outcome) →
      ∃ later, after[number]? = some (.call call cancelled later) ∧
        (outcome.isSome = true → later.isSome = true)

namespace Continues

variable {a b c : List Entry}

/-- Nothing was noted. -/
theorem refl (record : List Entry) : Continues record record :=
  fun _ _ _ outcome h => ⟨outcome, h, id⟩

/-- Records are continued further. -/
theorem trans (hab : Continues a b) (hbc : Continues b c) : Continues a c := by
  intro number call cancelled outcome h
  obtain ⟨middle, hmiddle, hm⟩ := hab number call cancelled outcome h
  obtain ⟨later, hlater, hl⟩ := hbc number call cancelled middle hmiddle
  exact ⟨later, hlater, hl ∘ hm⟩

/-- A further entry is noted. -/
theorem append (record : List Entry) (entry : Entry) : Continues record (record ++ [entry]) := by
  intro number call cancelled outcome h
  have hlt : number < record.length := (List.getElem?_eq_some_iff.mp h).1
  exact ⟨outcome, (List.getElem?_append_left hlt).trans h, id⟩

/-- How a call ends is noted. -/
theorem modify (record : List Entry) (number : Nat) (outcome : Outcome) :
    Continues record (record.modify number (Entry.settle outcome)) := by
  intro other call cancelled earlier h
  rw [List.getElem?_modify, h]
  by_cases heq : number = other
  · subst heq
    exact ⟨some outcome, by simp [Entry.settle], fun _ => rfl⟩
  · exact ⟨earlier, by simp [heq], id⟩

/-- Entered calls remain entered. -/
theorem entered (h : Continues a b) {number : Nat} {operation : Operation}
    (he : Entered a number operation) : Entered b number operation := by
  obtain ⟨call, cancelled, outcome, hget, hop⟩ := he
  obtain ⟨later, hlater, -⟩ := h number call cancelled outcome hget
  exact ⟨call, cancelled, later, hlater, hop⟩

/-- The handshake remains confirmed. -/
theorem confirmed (h : Continues a b) (hc : Confirmed a) : Confirmed b := by
  obtain ⟨number, call, cancelled, outcome, hget, hop⟩ := hc
  obtain ⟨later, hlater, hsome⟩ := h number call cancelled (some outcome) hget
  obtain ⟨known, rfl⟩ := Option.isSome_iff_exists.mp (hsome rfl)
  exact ⟨number, call, cancelled, known, hlater, hop⟩

end Continues

/-- A new call is entered under the next number. -/
theorem entered_append (record : List Entry) (call : Call) (cancelled : Option Bool) :
    Entered (record ++ [.call call cancelled none]) record.length call.operation :=
  ⟨call, cancelled, none, by simp, rfl⟩

/-- Then the entry at its number is that of a call that has ended so. -/
theorem getElem?_modify_settle {record : List Entry} {number : Nat} {call : Call}
    {cancelled : Option Bool} {earlier : Option Outcome}
    (entered : record[number]? = some (.call call cancelled earlier)) (outcome : Outcome) :
    (record.modify number (Entry.settle outcome))[number]? =
      some (.call call cancelled (some outcome)) := by
  rw [List.getElem?_modify, entered]
  simp [Entry.settle]

/-- Once the confirmation has ended, the handshake is confirmed. -/
theorem confirmed_modify {record : List Entry} {number : Nat}
    (h : Entered record number .confirmation) (outcome : Outcome) :
    Confirmed (record.modify number (Entry.settle outcome)) := by
  obtain ⟨call, cancelled, earlier, hget, hop⟩ := h
  exact ⟨number, call, cancelled, outcome, getElem?_modify_settle hget outcome, hop⟩

/-- How the last call ends is noted in the last place. -/
theorem modify_last (change : Entry → Entry) (record : List Entry) (entry : Entry) :
    (record ++ [entry]).modify record.length change = record ++ [change entry] := by
  induction record with
  | nil => rfl
  | cons first rest ih =>
    rw [List.cons_append, List.length_cons, List.modify_succ_cons, ih, List.cons_append]

/-- Noting how a call ends does not matter to what is the same of the entry before
and after. -/
theorem filterMap_modify {α : Type} (view : Entry → Option α) (change : Entry → Entry)
    (record : List Entry) (number : Nat)
    (h : ∀ entry, record[number]? = some entry → view (change entry) = view entry) :
    (record.modify number change).filterMap view = record.filterMap view := by
  induction record generalizing number with
  | nil => rw [List.modify_nil]
  | cons entry rest ih =>
    cases number with
    | zero =>
      rw [List.modify_zero_cons, List.filterMap_cons, List.filterMap_cons, h entry rfl]
    | succ number =>
      rw [List.modify_succ_cons, List.filterMap_cons, List.filterMap_cons,
        ih number fun other ho => h other ho]

/-- Noting how a call ends does not matter to what was asked for. -/
theorem map_asked?_modify (record : List Entry) (number : Nat) (outcome : Outcome) :
    (record.modify number (Entry.settle outcome)).map Entry.asked? = record.map Entry.asked? := by
  induction record generalizing number with
  | nil => rw [List.modify_nil]
  | cons entry rest ih =>
    cases number with
    | zero => rw [List.modify_zero_cons, List.map_cons, List.map_cons, Entry.asked?_settle]
    | succ number => rw [List.modify_succ_cons, List.map_cons, List.map_cons, ih]

/-- So it does not if that is noted for a turn of a call. -/
theorem map_asked?_noteTurn (record : List Entry) (number : Nat) (answer : state × Turn pending) :
    (noteTurn record number answer).1.record.map Entry.asked? = record.map Entry.asked? := by
  unfold noteTurn
  split
  · exact map_asked?_modify record number _
  · rfl

end LspGateway.Engine
