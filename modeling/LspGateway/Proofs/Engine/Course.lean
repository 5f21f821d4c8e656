import LspGateway.Lifecycle.Phase
import LspGateway.Proofs.Engine.Recording
import Mathlib.Computability.Language

/-!
# The course of an engine

The calls that are not for features come in a fixed order: attempts to open the
handshake that come to nothing, one that succeeds, the confirmation, notices, the
shutdown, the exit, and in the end the disposal; each of these only after the one
before, and the exit and the disposal at any time. The order is given as a
language over letters, one for each kind of call.
-/

open scoped Computability

namespace LspGateway.Engine

/-- The kinds of calls that are not for features. -/
inductive Letter where
  /-- The opening of a handshake that has failed, or was not yet or never answered. -/
  | failedOpening
  /-- The opening of a handshake that has succeeded. -/
  | opening
  /-- The confirmation of the handshake. -/
  | confirmation
  /-- A notification about documents or the workspace. -/
  | notice
  /-- The shutdown. -/
  | shutdown
  /-- The exit. -/
  | exit
  /-- The disposal. -/
  | disposal
  deriving DecidableEq, Repr

/-- The letter of an entry, unless it is a call for a feature. -/
def Entry.letter? : Entry → Option Letter
  | .disposal => some .disposal
  | .call asked _ outcome =>
    match asked.operation, outcome with
    | .opening, some (.result _) => some .opening
    | .opening, _ => some .failedOpening
    | .confirmation, _ => some .confirmation
    | .notice _, _ => some .notice
    | .shutdown, _ => some .shutdown
    | .exit, _ => some .exit
    | .feature _, _ => none

/-- The letters of a record, in the order in which the calls began. -/
def word (record : List Entry) : List Letter :=
  record.filterMap Entry.letter?

/-- The language of a single letter. -/
def single (letter : Letter) : Language Letter := {[letter]}

/-- Attempts to open the handshake that come to nothing. -/
def attempts : Language Letter := (single .failedOpening)∗

/-- What is said until the exit: attempts, and perhaps an opening, and then perhaps
a confirmation, notices, and perhaps a shutdown. -/
def courses : Language Letter :=
  attempts * (1 + single .opening *
    (1 + single .confirmation * (single .notice)∗ * (1 + single .shutdown)))

/-- What is said in all: perhaps an exit at last, and perhaps a disposal. -/
def wholeCourse : Language Letter :=
  courses * (1 + single .exit) * (1 + single .disposal)

/-- What was said when a session has come to a phase before the end. -/
def courseUpTo : Phase → Language Letter
  | .uninitialized => attempts
  | .initializing => attempts * single .opening
  | .initialized => attempts * single .opening * single .confirmation * (single .notice)∗
  | .shuttingDown =>
    attempts * single .opening * single .confirmation * (single .notice)∗ * single .shutdown
  | .exited => 0

/-! ## Words -/

/-- A further letter. -/
theorem append_single {language : Language Letter} {letters : List Letter}
    (h : letters ∈ language) (letter : Letter) : letters ++ [letter] ∈ language * single letter :=
  Language.append_mem_mul h rfl

/-- Further attempts are attempts. -/
theorem append_failedOpening {letters : List Letter} (h : letters ∈ attempts) :
    letters ++ [.failedOpening] ∈ attempts := by
  have hle : attempts * single .failedOpening ≤ attempts := kstar_mul_le_kstar
  exact hle (append_single h .failedOpening)

/-- Further notices are said in the same phase. -/
theorem append_notice {letters : List Letter} (h : letters ∈ courseUpTo .initialized) :
    letters ++ [.notice] ∈ courseUpTo .initialized := by
  obtain ⟨first, hfirst, notices, hnotices, rfl⟩ := Language.mem_mul.mp h
  rw [List.append_assoc]
  have hle : (single .notice)∗ * single .notice ≤ (single .notice)∗ := kstar_mul_le_kstar
  exact Language.append_mem_mul hfirst (hle (append_single hnotices .notice))

/-- The confirmation is said before all notices. -/
theorem append_confirmation {letters : List Letter} (h : letters ∈ courseUpTo .initializing) :
    letters ++ [.confirmation] ∈ courseUpTo .initialized := by
  have hnone : ([] : List Letter) ∈ (single .notice)∗ := Language.nil_mem_kstar _
  have hword := Language.append_mem_mul (append_single h .confirmation) hnone
  rwa [List.append_nil] at hword

/-- What is said until the exit is what is said in one of the phases. -/
theorem courses_eq : courses = courseUpTo .uninitialized + courseUpTo .initializing +
    courseUpTo .initialized + courseUpTo .shuttingDown := by
  simp only [courses, courseUpTo, mul_add, mul_one, ← mul_assoc, add_assoc]

/-- Before the exit nothing else is said. -/
theorem mem_courses {phase : Phase} {letters : List Letter} (h : letters ∈ courseUpTo phase) :
    letters ∈ courses := by
  rw [courses_eq]
  simp only [Language.mem_add]
  cases phase with
  | uninitialized => exact .inl (.inl (.inl h))
  | initializing => exact .inl (.inl (.inr h))
  | initialized => exact .inl (.inr h)
  | shuttingDown => exact .inr h
  | exited => exact absurd h (Language.notMem_zero letters)

/-- The exit may be left out. -/
theorem mem_courses_exit {letters : List Letter} (h : letters ∈ courses) :
    letters ∈ courses * (1 + single .exit) := by
  have hword := Language.append_mem_mul h
    (show ([] : List Letter) ∈ 1 + single .exit from .inl Language.nil_mem_one)
  rwa [List.append_nil] at hword

/-- The exit is said last. -/
theorem append_exit {letters : List Letter} (h : letters ∈ courses) :
    letters ++ [.exit] ∈ courses * (1 + single .exit) :=
  Language.append_mem_mul h (.inr rfl)

/-- The disposal may not have come yet. -/
theorem mem_wholeCourse {letters : List Letter} (h : letters ∈ courses * (1 + single .exit)) :
    letters ∈ wholeCourse := by
  have hword := Language.append_mem_mul h
    (show ([] : List Letter) ∈ 1 + single .disposal from .inl Language.nil_mem_one)
  rwa [List.append_nil] at hword

/-- Nothing is said after the disposal. -/
theorem append_disposal {letters : List Letter} (h : letters ∈ courses * (1 + single .exit)) :
    letters ++ [.disposal] ∈ wholeCourse :=
  Language.append_mem_mul h (.inr rfl)

/-! ## Words of records -/

/-- The word of a record with a further entry. -/
theorem word_append (record : List Entry) (entry : Entry) :
    word (record ++ [entry]) = word record ++ entry.letter?.toList := by
  unfold word
  rw [List.filterMap_append]
  cases hl : entry.letter? <;> simp [hl]

/-- How a call ends matters to the word only if the call opens the handshake. -/
theorem letter?_settle {asked : Call} (h : asked.operation ≠ .opening)
    (cancelled : Option Bool) (outcome : Option Outcome) (later : Outcome) :
    (Entry.settle later (.call asked cancelled outcome)).letter? =
      (Entry.call asked cancelled outcome).letter? := by
  simp only [Entry.settle, Entry.letter?]
  cases hop : asked.operation <;> simp_all

/-- Noting how a call ends that does not open the handshake leaves the word. -/
theorem word_modify {record : List Entry} {number : Nat} {operation : Operation}
    (h : Entered record number operation) (hne : operation ≠ .opening) (outcome : Outcome) :
    word (record.modify number (Entry.settle outcome)) = word record := by
  obtain ⟨asked, cancelled, earlier, hget, hop⟩ := h
  refine filterMap_modify Entry.letter? (Entry.settle outcome) record number fun entry he => ?_
  rw [hget] at he
  rw [← Option.some.inj he]
  exact letter?_settle (by rw [hop]; exact hne) cancelled earlier outcome

end LspGateway.Engine
