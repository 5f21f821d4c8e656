import LspGateway.Proofs.Session.Acts
import Mathlib.Logic.Relation

/-!
# The steps that acts are made of

Whatever an act comes to, it is made of a few steps: reports, messages that are sent,
changes of the engine, of the lifecycle, of the tasks, of the queue, and the end. What each
of these steps keeps is kept by every act, so that it need not be followed through the
classes again.
-/

namespace LspGateway.Session

variable {state pending : Type}

/-- One step of an act. -/
inductive Step (m : Engine state pending) (session : Session state pending) :
    Session state pending → Prop where
  /-- Something is reported, forwarded, or watched. -/
  | told {after : Session state pending} (alike : session.Alike after) : Step m session after
  /-- A message is sent. -/
  | sent (message : Outgoing) : Step m session (session.send message)
  /-- The engine changes. -/
  | stirred (engine : state) : Step m session (session.withEngine engine)
  /-- Another message waits, or none. -/
  | turned (turn : Option (Turn pending)) : Step m session (session.withTurn turn)
  /-- A duty begins. -/
  | started (duty : Duty) (next : Lifecycle) (lives : session.hasEnded = false)
      (starts : duty.Starts session.lifecycle next) :
      Step m session { session with lifecycle := next }
  /-- A duty ends. -/
  | settled (duty : Duty) (outcome : Engine.Outcome) (fits : duty.FitsIn session.lifecycle.phase) :
      Step m session { session with lifecycle := duty.settle outcome session.lifecycle }
  /-- A request is cancelled. -/
  | cancelled (id : RequestId) :
      Step m session { session with registry := (session.registry.cancel id).2 }
  /-- A request becomes a task. -/
  | enlisted (id : RequestId) (feature : Engine.Feature) (params : Json)
      (phase : session.lifecycle.phase = .initialized) (free : session.registry.live? id = none) :
      Step m session (session.enlist id feature params)
  /-- A task waits for the engine. -/
  | parked (task : Task pending) (call : pending) (member : task ∈ session.tasks) :
      Step m session (session.park task call)
  /-- A task is answered and goes. -/
  | retired (task : Task pending) (member : task ∈ session.tasks) :
      Step m session (session.retire task)
  /-- The queue is emptied. -/
  | taken : Step m session (session.withOutbound session.bridge.outbound.take.2)
  /-- The queue has been closed and is lost. -/
  | dropped (closed : session.bridge.outbound.isOpen = false) :
      Step m session (session.withOutbound session.bridge.outbound.dropReceiver)
  /-- The session ends, unless it has ended. -/
  | ended (coherent : session.Coherent) (ending : Ending) :
      Step m session (session.terminate m ending)

/-- One session has come of another by steps. -/
def Steps (m : Engine state pending) : Session state pending → Session state pending → Prop :=
  Relation.ReflTransGen (Step m)

namespace Steps

variable {m : Engine state pending} {a b c : Session state pending}

/-- No step at all. -/
theorem refl (session : Session state pending) : Steps m session session :=
  Relation.ReflTransGen.refl

/-- Steps follow each other. -/
theorem trans (hab : Steps m a b) (hbc : Steps m b c) : Steps m a c :=
  Relation.ReflTransGen.trans hab hbc

/-- One more step. -/
theorem step (hab : Steps m a b) (hbc : Step m b c) : Steps m a c :=
  Relation.ReflTransGen.tail hab hbc

/-- One step. -/
theorem single (h : Step m a b) : Steps m a b :=
  Relation.ReflTransGen.single h

/-- What goes from each step to the next goes over all of them. -/
theorem lift {kept : Session state pending → Session state pending → Prop}
    (refl : ∀ session, kept session session)
    (trans : ∀ {a b c}, kept a b → kept b c → kept a c)
    (step : ∀ {a b}, Step m a b → kept a b) (h : Steps m a b) : kept a b := by
  induction h with
  | refl => exact refl a
  | tail _ last ih => exact trans ih (step last)

end Steps

section Classes

variable {m : Engine state pending} {session : Session state pending}

/-- The end of a duty. -/
theorem Concluded.steps {duty : Duty} {outcome : Engine.Outcome} {after : Session state pending}
    (hc : Concluded m session duty outcome after) (h : session.Coherent)
    (fits : duty.FitsIn session.lifecycle.phase) : Steps m session after := by
  cases hc with
  | answered id answer asker alike =>
    exact ((Steps.single (.settled duty outcome fits)).step (.told alike)).step (.sent _)
  | seen asker stays alike => exact .single (.told alike)
  | left leaves alike => exact (Steps.single (.told alike)).step (.ended (h.alike alike) .exit)

/-- An answer of the engine in a message that waits in its turn. -/
theorem Continued.steps {duty : Duty} {answer : state × Engine.Turn pending}
    {after : Session state pending} (hc : Continued m session duty answer after)
    (h : session.Coherent) (fits : duty.FitsIn session.lifecycle.phase) :
    Steps m session after := by
  have answered (turn : Option (Turn pending)) :
      Steps m session ((session.withEngine answer.1).withTurn turn) :=
    (Steps.single (.stirred answer.1)).step (.turned turn)
  cases hc with
  | waits call progress alike => exact (answered _).step (.told alike)
  | ends outcome progress alike concluded =>
    have told := (h.withEngine answer.1).withoutTurn.alike alike
    exact ((answered none).step (.told alike)).trans
      (concluded.steps told (by rw [alike.lifecycle]; exact fits))

/-- A message that is handled. -/
theorem Upshot.steps {payload : Bytes} {after : Session state pending}
    (hu : Upshot m session payload after) (h : session.Coherent)
    (lives : session.hasEnded = false) (idle : session.turn = none) : Steps m session after := by
  cases hu with
  | ignored due alike => exact .single (.told alike)
  | cancelled id due alike => exact (Steps.single (.cancelled id)).step (.told alike)
  | answered id answer due alike => exact (Steps.single (.told alike)).step (.sent _)
  | enlisted id feature params decoded phase free due alike =>
    exact (Steps.single (.enlisted id feature params phase free)).step (.told alike)
  | @asked told duty next call due starts operation alike =>
    obtain ⟨begun, fits⟩ := h.begun lives idle starts alike
    exact ((Steps.single (.started duty next lives starts)).step (.told alike)).trans
      ((begun.asked duty call).steps begun fits)

/-- A task that goes on. -/
theorem Worked.steps {ticket : Nat} {after : Session state pending}
    (hw : Worked m session ticket after) : Steps m session after := by
  cases hw with
  | absent missing => exact .refl session
  | refused task answer found consulted alike =>
    exact ((Steps.single (.retired task (Coherent.mem_of_task? found).1)).step
      (.told alike)).step (.sent _)
  | parked task turn call found consulted progress alike =>
    exact ((Steps.single (.stirred turn.1)).step
      (.parked task call (Coherent.mem_of_task? found).1)).step (.told alike)
  | answered task turn outcome answer found consulted progress alike =>
    exact (((Steps.single (.stirred turn.1)).step
      (.retired task (Coherent.mem_of_task? found).1)).step (.told alike)).step (.sent _)

/-- Every act is made of steps. -/
theorem Coherent.steps_perform (h : session.Coherent) (act : Act state) :
    Steps m session (session.perform m act) := by
  have performed : Performed m session act (session.perform m act) := perform_performed h act
  generalize session.perform m act = after at performed ⊢
  cases performed with
  | quiet unread kept other alike => exact .single (.told alike)
  | handled world payload lives idle hu => exact hu.steps h lives idle
  | resumed turn lives waits hc => exact hc.steps h (h.fits lives waits)
  | worked ticket hw => exact hw.steps
  | stirred change => exact .single (.stirred _)
  | taken => exact .single .taken
  | dropped closed => exact .single (.dropped closed)
  | @ended act told ending turn unread kept other cut alike =>
    exact ((Steps.single (.turned turn)).step (.told alike)).step
      (.ended ((h.cut cut).alike alike) ending)

end Classes

end LspGateway.Session
