import LspGateway.Proofs.Session.Responses
import LspGateway.Proofs.Session.Steps

/-!
# Responses while a request is outstanding

A request for a feature is outstanding while it has a task. Another request for a
feature with its identifier is dropped then. Every other message with that
identifier is answered all the same: a request for anything else, a request for
a feature that is refused for the phase, and a message that is rejected. These
are all: as long as the task is there, as many responses carry its identifier as
there were messages of that kind.
-/

namespace LspGateway

namespace Session

variable {state pending : Type}

/-- Whether the request of an identifier has the task of a ticket. -/
def isOutstanding (session : Session state pending) (ticket : Nat) (id : RequestId) : Bool :=
  session.tasks.any fun task => task.ticket == ticket && task.id == id

/-- Whether a frame brings an answer under an identifier although a request for a
feature holds it: it is a request that is not taken in as one for a feature, or
it is rejected. -/
def Receipt.contests (receipt : Receipt state pending) (id : RequestId) : Bool :=
  match Incoming.decode receipt.payload with
  | .ok (.request other method _) => other == id && !receipt.found.admits method
  | .error rejection => rejection.id? == some id
  | _ => false

/-- How many answers the message that waits in its turn will bring under an
identifier. -/
def turnOwes (session : Session state pending) (id : RequestId) : Nat :=
  (session.turn.bind fun turn => turn.duty.asker?).toList.count id

/-! ## Tasks do not come back -/

/-- Tasks with old tickets are old tasks. -/
structure Descends (before after : Session state pending) : Prop where
  /-- Tickets are given out in order. -/
  next : before.nextTicket ≤ after.nextTicket
  /-- A task whose ticket was given out before was there before. -/
  tasks : ∀ task ∈ after.tasks, task.ticket < before.nextTicket →
    ∃ old ∈ before.tasks, old.ticket = task.ticket ∧ old.id = task.id

namespace Descends

/-- With the same tasks there is nothing to say. -/
theorem of_eq {before after : Session state pending} (ht : after.tasks = before.tasks)
    (hn : after.nextTicket = before.nextTicket) : before.Descends after :=
  ⟨Nat.le_of_eq hn.symm, fun task hmem _ => ⟨task, ht ▸ hmem, rfl, rfl⟩⟩

/-- Descent carries on. -/
theorem trans {a b c : Session state pending} (hab : a.Descends b) (hbc : b.Descends c) :
    a.Descends c := by
  refine ⟨Nat.le_trans hab.next hbc.next, fun task hmem hlt => ?_⟩
  obtain ⟨middle, hmiddle, hticket, hid⟩ := hbc.tasks task hmem (Nat.lt_of_lt_of_le hlt hab.next)
  obtain ⟨old, hold, hticket', hid'⟩ := hab.tasks middle hmiddle (hticket ▸ hlt)
  exact ⟨old, hold, hticket'.trans hticket, hid'.trans hid⟩

/-- Nothing has happened. -/
theorem refl (session : Session state pending) : session.Descends session := of_eq rfl rfl

/-- A new task gets a new ticket. -/
theorem enlist (session : Session state pending) (id : RequestId) (feature : Engine.Feature)
    (params : Json) : session.Descends (session.enlist id feature params) := by
  refine ⟨Nat.le_succ session.nextTicket, fun task hmem hlt => ?_⟩
  rcases List.mem_append.mp hmem with hold | hnew
  · exact ⟨task, hold, rfl, rfl⟩
  · rw [List.mem_singleton.mp hnew] at hlt
    exact absurd hlt (Nat.lt_irrefl session.nextTicket)

/-- A task is answered and goes. -/
theorem retire (session : Session state pending) (task : Task pending) :
    session.Descends (session.retire task) :=
  ⟨Nat.le_refl _, fun other hmem _ => ⟨other, (List.mem_filter.mp hmem).1, rfl, rfl⟩⟩

/-- A task waits for the engine. -/
theorem park {session : Session state pending} {task : Task pending} (ht : task ∈ session.tasks)
    (call : pending) : session.Descends (session.park task call) := by
  refine ⟨Nat.le_refl _, fun other hmem _ => ?_⟩
  obtain ⟨old, hold, rfl⟩ := List.mem_map.mp hmem
  split
  · exact ⟨task, ht, rfl, rfl⟩
  · exact ⟨old, hold, rfl, rfl⟩

end Descends

section Descent

variable {m : Engine state pending} {session : Session state pending}

/-- A step leaves old tasks or takes them away. -/
theorem Step.descends {after : Session state pending} (step : Step m session after) :
    session.Descends after := by
  cases step with
  | told alike => exact .of_eq alike.tasks alike.nextTicket
  | enlisted id feature params phase free => exact .enlist session id feature params
  | parked task call member => exact .park member call
  | retired task member => exact .retire session task
  | ended coherent ending =>
    obtain ⟨tasks, next⟩ := tasks_terminate m session ending
    exact .of_eq tasks next
  | _ => exact .of_eq rfl rfl

/-- Every act leaves old tasks or takes them away. -/
theorem Coherent.descends (h : session.Coherent) (act : Act state) :
    session.Descends (session.perform m act) :=
  (h.steps_perform act).lift Descends.refl Descends.trans Step.descends

/-- A request that is outstanding after an act, and whose ticket was given out
before, was outstanding before. -/
theorem Descends.isOutstanding {before after : Session state pending} (h : before.Descends after)
    {ticket : Nat} {id : RequestId} (old : ticket < before.nextTicket)
    (ho : after.isOutstanding ticket id = true) : before.isOutstanding ticket id = true := by
  obtain ⟨task, hmem, heq⟩ := List.any_eq_true.mp ho
  rw [Bool.and_eq_true, beq_iff_eq, beq_iff_eq] at heq
  obtain ⟨earlier, hearlier, hticket, hid⟩ := h.tasks task hmem (heq.1 ▸ old)
  refine List.any_eq_true.mpr ⟨earlier, hearlier, ?_⟩
  rw [Bool.and_eq_true, beq_iff_eq, beq_iff_eq]
  exact ⟨hticket.trans heq.1, hid.trans heq.2⟩

/-- A request that is outstanding has a ticket that was given out. -/
theorem Coherent.lt_nextTicket (h : session.Coherent) {ticket : Nat} {id : RequestId}
    (ho : session.isOutstanding ticket id = true) : ticket < session.nextTicket := by
  obtain ⟨task, hmem, heq⟩ := List.any_eq_true.mp ho
  rw [Bool.and_eq_true, beq_iff_eq, beq_iff_eq] at heq
  exact heq.1 ▸ h.agreement.below task hmem

/-- An outstanding request is one debt; another one under its identifier can only
be in its turn. -/
theorem Coherent.count_debts (h : session.Coherent) {ticket : Nat} {id : RequestId}
    (ho : session.isOutstanding ticket id = true) :
    session.debts.count id = 1 + session.turnOwes id := by
  obtain ⟨task, hmem, heq⟩ := List.any_eq_true.mp ho
  rw [Bool.and_eq_true, beq_iff_eq, beq_iff_eq] at heq
  have hid : id ∈ session.tasks.map Task.id := List.mem_map.mpr ⟨task, hmem, heq.2⟩
  have hone := List.count_eq_one_of_mem h.agreement.ids hid
  unfold debts turnOwes
  rw [List.count_append, hone]

/-- While a request is outstanding, a frame is due under its identifier exactly if
it contests it. -/
theorem due_eq_contests {ticket : Nat} {id : RequestId}
    (ho : session.isOutstanding ticket id = true) (payload : Bytes) :
    (session.due payload == some (some id)) = Receipt.contests ⟨session, payload⟩ id := by
  obtain ⟨task, hmem, heq⟩ := List.any_eq_true.mp ho
  rw [Bool.and_eq_true, beq_iff_eq, beq_iff_eq] at heq
  have htaken : (session.tasks.any fun task => task.id == id) = true :=
    List.any_eq_true.mpr ⟨task, hmem, by rw [heq.2, beq_self_eq_true]⟩
  unfold due Receipt.contests
  cases Incoming.decode payload with
  | error rejection => simp
  | ok message =>
    cases message with
    | notification method params => rfl
    | response other result error => rfl
    | request other method params =>
      by_cases hother : other = id
      · subst hother
        simp only [duplicates, htaken, Bool.and_true]
        cases session.admits method <;> simp
      · have hne : (some (some other) == some (some id)) = false := by simpa using hother
        have hno : (other == id) = false := by simpa using hother
        simp only [hno, Bool.false_and]
        split
        · rfl
        · exact hne

end Descent

end Session

namespace Chronicle

variable {state pending : Type} {m : Engine state pending} {chronicle : Chronicle state pending}

/-- How many frames brought an answer under an identifier that was held. -/
def contests (chronicle : Chronicle state pending) (id : RequestId) : Nat :=
  chronicle.receipts.countP fun receipt => receipt.contests id

/-- Runs leave old tasks or take them away. -/
theorem descends_run (coherent : chronicle.session.Coherent) (acts : List (Session.Act state)) :
    chronicle.session.Descends (chronicle.run m acts).session :=
  run_induction (fun c => chronicle.session.Descends c.session)
    (fun _ act hc descends => descends.trans (hc.descends act)) coherent (.refl _) acts

/-- While a request is outstanding, an act brings as many responses under its
identifier as frames that contest it. -/
theorem responses_perform_of_outstanding (coherent : chronicle.session.Coherent) {ticket : Nat}
    {id : RequestId} (outstanding : chronicle.session.isOutstanding ticket id = true)
    (act : Session.Act state)
    (still : (chronicle.perform m act).session.isOutstanding ticket id = true)
    (lasts : (chronicle.perform m act).session.hasEnded = false) :
    (chronicle.perform m act).responses (some id) +
        (chronicle.perform m act).session.turnOwes id + chronicle.contests id =
      chronicle.responses (some id) + chronicle.session.turnOwes id +
        (chronicle.perform m act).contests id := by
  have step := (accounts_perform coherent act lasts).count_eq (some id)
  have hbefore : chronicle.owed id = 1 + chronicle.session.turnOwes id :=
    coherent.count_debts outstanding
  have hafter : (chronicle.perform m act).owed id =
      1 + (chronicle.perform m act).session.turnOwes id :=
    (coherent.perform act).count_debts still
  have hcontests : (chronicle.perform m act).contests id = chronicle.contests id +
      (chronicle.session.received act).countP fun receipt => receipt.contests id :=
    List.countP_append
  have hdues : ((chronicle.session.received act).filterMap Session.Receipt.due).count (some id) =
      (chronicle.session.received act).countP fun receipt => receipt.contests id := by
    rw [List.count_filterMap]
    refine List.countP_congr fun receipt hr => ?_
    have hfound : receipt.found = chronicle.session := Session.found_of_mem_received hr
    have hsame := Session.due_eq_contests (hfound ▸ outstanding) receipt.payload
    change (receipt.found.due receipt.payload == some (some id)) = true ↔ _
    rw [hsame]
  rw [List.count_append, ← responses_add_owed, ← responses_add_owed, hdues] at step
  omega

/-- While a request is outstanding, the responses under its identifier are as many
as the frames that contest it. -/
theorem responses_run_of_outstanding (coherent : chronicle.session.Coherent) {ticket : Nat}
    {id : RequestId} (outstanding : chronicle.session.isOutstanding ticket id = true)
    (acts : List (Session.Act state))
    (still : (chronicle.run m acts).session.isOutstanding ticket id = true)
    (lasts : (chronicle.run m acts).session.hasEnded = false) :
    (chronicle.run m acts).responses (some id) +
        (chronicle.run m acts).session.turnOwes id + chronicle.contests id =
      chronicle.responses (some id) + chronicle.session.turnOwes id +
        (chronicle.run m acts).contests id := by
  induction acts generalizing chronicle with
  | nil => rfl
  | cons act rest ih =>
    rw [run_cons] at still lasts ⊢
    have later := coherent.perform (m := m) act
    have there : (chronicle.perform m act).session.isOutstanding ticket id = true := by
      refine (descends_run later rest).isOutstanding ?_ still
      exact Nat.lt_of_lt_of_le (coherent.lt_nextTicket outstanding) (coherent.descends act).next
    have first := responses_perform_of_outstanding coherent outstanding act there
      (lives_of_run later rest lasts)
    have others := ih later there still lasts
    omega

/-- Responses that were queued stay queued. -/
theorem responses_le_run (coherent : chronicle.session.Coherent)
    (acts : List (Session.Act state)) (key : Option RequestId) :
    chronicle.responses key ≤ (chronicle.run m acts).responses key :=
  (queued_grows_run coherent acts).sublist.countP_le

/-- In every run, while a request for a feature is outstanding, the responses under
its identifier that are queued, or will be queued once the engine has answered the
message in its turn, are as many as the frames that contest the identifier. So no
response comes but of these, and each of these brings one. -/
theorem responses_while_outstanding (m : Engine state pending) (engine : state)
    (config : SessionConfig) (acts more : List (Session.Act state)) (ticket : Nat)
    (id : RequestId)
    (outstanding : ((start engine config).run m acts).session.isOutstanding ticket id = true)
    (still : ((start engine config).run m (acts ++ more)).session.isOutstanding ticket id = true)
    (lasts : ((start engine config).run m (acts ++ more)).session.hasEnded = false) :
    ((start engine config).run m (acts ++ more)).responses (some id) +
        ((start engine config).run m (acts ++ more)).session.turnOwes id +
        ((start engine config).run m acts).contests id =
      ((start engine config).run m acts).responses (some id) +
        ((start engine config).run m acts).session.turnOwes id +
        ((start engine config).run m (acts ++ more)).contests id ∧
    (((start engine config).run m acts).session.turnOwes id = 0 →
      (((start engine config).run m (acts ++ more)).responses (some id) =
          ((start engine config).run m acts).responses (some id) ∧
        ((start engine config).run m (acts ++ more)).session.turnOwes id = 0 ↔
      ((start engine config).run m (acts ++ more)).contests id =
        ((start engine config).run m acts).contests id)) := by
  rw [run_append] at still lasts ⊢
  have coherent := coherent_run_start m engine config acts
  have balance := responses_run_of_outstanding coherent outstanding more still lasts
  have grows := responses_le_run (m := m) coherent more (some id)
  refine ⟨balance, fun idle => ⟨?_, ?_⟩⟩
  · rintro ⟨hresponses, howes⟩
    omega
  · intro hcontests
    constructor <;> omega

set_option maxRecDepth 2000 in
/-- A request that nobody offers is answered under the identifier of a hover
request that has no answer yet. -/
theorem responses_while_hover_outstanding :
    let before := (start () ⟨2000, 1000⟩).run Engine.bare (Sample.handshake ++ [Sample.hover "1"])
    let after := (start () ⟨2000, 1000⟩).run Engine.bare
      (Sample.handshake ++ [Sample.hover "1"] ++ [Sample.unrouted "1"])
    (before.session.isOutstanding 0 (.number 1) = true ∧
      after.session.isOutstanding 0 (.number 1) = true ∧ after.session.hasEnded = false ∧
      before.responses (some (.number 1)) = 0 ∧ after.responses (some (.number 1)) = 1) ∧
    after.responses (some (.number 1)) + after.session.turnOwes (.number 1) +
        before.contests (.number 1) =
      before.responses (some (.number 1)) + before.session.turnOwes (.number 1) +
        after.contests (.number 1) := by
  have facts :
      let before := (start () ⟨2000, 1000⟩).run Engine.bare (Sample.handshake ++ [Sample.hover "1"])
      let after := (start () ⟨2000, 1000⟩).run Engine.bare
        (Sample.handshake ++ [Sample.hover "1"] ++ [Sample.unrouted "1"])
      before.session.isOutstanding 0 (.number 1) = true ∧
        after.session.isOutstanding 0 (.number 1) = true ∧ after.session.hasEnded = false ∧
        before.responses (some (.number 1)) = 0 ∧ after.responses (some (.number 1)) = 1 := by
    decide +kernel
  exact ⟨facts, (responses_while_outstanding Engine.bare () ⟨2000, 1000⟩
    (Sample.handshake ++ [Sample.hover "1"]) [Sample.unrouted "1"] 0 (.number 1) facts.1 facts.2.1
    facts.2.2.1).1⟩

end Chronicle

end LspGateway
