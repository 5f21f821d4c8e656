import LspGateway.Proofs.Session.Chronicle

/-!
# Accounting for responses

A message that has to be answered is a debt until it is. The requests that have
tasks are debts, and so is the request behind a message that waits in its turn.
As long as a session lasts, what has been answered and what is owed together are
what was due, so that no path answers twice or not at all. A session that has
ended pays no debts.
-/

namespace LspGateway

/-- The identifier under which a message answers, if it is a response. -/
def Outgoing.answers? : Outgoing → Option (Option RequestId)
  | .response id _ => some id
  | .notification _ _ => none

/-- Messages that are no responses answer nothing. -/
theorem Outgoing.filterMap_answers? {notes : List Outgoing}
    (h : ∀ note ∈ notes, note.isResponse = false) : notes.filterMap answers? = [] := by
  refine List.filterMap_eq_nil_iff.mpr fun note hn => ?_
  have hkind := h note hn
  cases note with
  | response id answer => exact absurd hkind (by simp [isResponse])
  | notification method params => rfl

namespace Session

variable {state pending : Type}

/-- The identifiers under which the messages in the queue answer, in order. -/
def answered (session : Session state pending) : List (Option RequestId) :=
  session.bridge.outbound.queued.filterMap Outgoing.answers?

/-- The requests that are still to be answered: those with tasks, and the one
behind the message that waits in its turn. -/
def debts (session : Session state pending) : List RequestId :=
  session.tasks.map Task.id ++ (session.turn.bind fun turn => turn.duty.asker?).toList

/-- What was answered, and what is owed. -/
def accounts (session : Session state pending) : List (Option RequestId) :=
  session.answered ++ session.debts.map some

/-- The identifier under which a frame had to be answered, if it had to. -/
def Receipt.due (receipt : Receipt state pending) : Option (Option RequestId) :=
  receipt.found.due receipt.payload

section Accounts

variable {m : Engine state pending} {session : Session state pending}

/-- Forwarded events answer nothing. -/
theorem Alike.answered {told : Session state pending} (h : session.Alike told) :
    told.answered = session.answered := by
  obtain ⟨notes, hq, hnotes, -⟩ := h.outbound.queued
  unfold Session.answered
  rw [hq, List.filterMap_append, Outgoing.filterMap_answers? hnotes, List.append_nil]

/-- Sessions that are alike have the same accounts. -/
theorem Alike.accounts {told : Session state pending} (h : session.Alike told) :
    told.accounts = session.accounts := by
  unfold Session.accounts debts
  rw [h.answered, h.tasks, h.turn]

/-- As long as a session lasts, what is sent is queued after everything else. -/
theorem Coherent.queued_send (h : session.Coherent) (lives : session.hasEnded = false)
    (message : Outgoing) :
    (session.send message).bridge.outbound.queued =
      session.bridge.outbound.queued ++ [message] := by
  have hopen : session.bridge.outbound.isOpen = true := by
    rw [h.isOpen, lives]
    rfl
  change (session.bridge.outbound.send message).2.1.queued = _
  simp [Outbound.send, hopen, h.hasReceiver lives]

/-- As long as a session lasts, what is sent answers. -/
theorem Coherent.answered_send (h : session.Coherent) (lives : session.hasEnded = false)
    (id : Option RequestId) (answer : Answer) :
    (session.send (.response id answer)).answered = session.answered ++ [id] := by
  unfold answered
  rw [h.queued_send lives, List.filterMap_append]
  rfl

/-- An answer is put to the accounts. -/
theorem Coherent.accounts_send (h : session.Coherent) (lives : session.hasEnded = false)
    (id : Option RequestId) (answer : Answer) :
    (session.send (.response id answer)).accounts.Perm (session.accounts ++ [id]) := by
  change ((session.send (.response id answer)).answered ++ session.debts.map some).Perm _
  rw [h.answered_send lives, accounts, List.append_assoc, List.append_assoc]
  exact List.perm_append_comm.append_left session.answered

/-- The end answers nothing. -/
theorem Terminated.answered {ending : Ending} {after : Session state pending}
    (h : Terminated m session ending after) : after.answered = session.answered := by
  obtain ⟨notes, hq, hnotes⟩ := h.queued
  unfold Session.answered
  rw [hq, List.filterMap_append, Outgoing.filterMap_answers? hnotes, List.append_nil]

end Accounts

/-! ## Debts -/

section Debts

variable {m : Engine state pending} {session : Session state pending}

/-- The task of a ticket, and the others. -/
theorem perm_cons_filter_ticket {tasks : List (Task pending)} {task : Task pending}
    (ht : task ∈ tasks) (hn : (tasks.map Task.ticket).Nodup) :
    tasks.Perm (task :: tasks.filter fun other => other.ticket != task.ticket) := by
  induction tasks with
  | nil => exact absurd ht List.not_mem_nil
  | cons first rest ih =>
    obtain ⟨hfirst, hrest⟩ := List.nodup_cons.mp hn
    rcases List.mem_cons.mp ht with rfl | ht
    · have hkept : rest.filter (fun other => other.ticket != task.ticket) = rest := by
        refine List.filter_eq_self.mpr fun other ho => ?_
        have hne : other.ticket ≠ task.ticket := fun heq =>
          hfirst (heq ▸ List.mem_map_of_mem ho)
        simpa using hne
      simp [hkept]
    · have hne : first.ticket ≠ task.ticket := fun heq =>
        hfirst (heq ▸ List.mem_map_of_mem ht)
      have hfilter : (first :: rest).filter (fun other => other.ticket != task.ticket) =
          first :: rest.filter fun other => other.ticket != task.ticket :=
        List.filter_cons_of_pos (by simpa using hne)
      rw [hfilter]
      exact ((ih ht hrest).cons first).trans (.swap task first _)

/-- A task that goes takes its debt along. -/
theorem Coherent.accounts_retire (h : session.Coherent) {task : Task pending}
    (ht : task ∈ session.tasks) :
    session.accounts.Perm ((session.retire task).accounts ++ [some task.id]) := by
  have htasks := perm_cons_filter_ticket ht h.agreement.tickets
  have hdebts : session.debts.Perm ((session.retire task).debts ++ [task.id]) := by
    refine ((htasks.map Task.id).append_right _).trans ?_
    exact (List.perm_append_singleton task.id (session.retire task).debts).symm
  have hsome := (hdebts.map some).append_left session.answered
  rw [List.map_append, ← List.append_assoc] at hsome
  exact hsome

/-- A task that waits remains a debt. -/
theorem Coherent.accounts_park (h : session.Coherent) {task : Task pending}
    (ht : task ∈ session.tasks) (call : pending) :
    (session.park task call).accounts = session.accounts := by
  have hids : (session.park task call).tasks.map Task.id = session.tasks.map Task.id := by
    unfold Session.park
    rw [List.map_map]
    refine List.map_congr_left fun other ho => ?_
    simp only [Function.comp_apply]
    split
    · next heq => rw [h.agreement.eq_of_ticket ho ht (by simpa using heq)]
    · rfl
  change session.answered ++ List.map some ((session.park task call).tasks.map Task.id ++ _) = _
  rw [hids]
  rfl

/-- The debt of the message that waits in its turn. -/
theorem accounts_withTurn (session : Session state pending) (turn : Turn pending) :
    (session.withTurn (some turn)).accounts =
      (session.withTurn none).accounts ++ (turn.duty.asker?.map some).toList := by
  change session.answered ++ List.map some (session.tasks.map Task.id ++ turn.duty.asker?.toList) =
    session.answered ++ List.map some (session.tasks.map Task.id ++ []) ++ _
  rw [List.map_append, List.append_nil, List.append_assoc]
  cases turn.duty.asker? <;> rfl

/-- A task that goes on is answered or remains a debt. -/
theorem Worked.accounts {ticket : Nat} {after : Session state pending}
    (hw : Worked m session ticket after) (h : session.Coherent)
    (lives : session.hasEnded = false) : after.accounts.Perm session.accounts := by
  -- What is answered has just ceased to be a debt.
  have paid {base told : Session state pending} (hb : base.Coherent)
      (hbl : base.hasEnded = false) (hba : base.accounts = session.accounts)
      {task : Task pending} (ht : task ∈ base.tasks) (ha : (base.retire task).Alike told)
      (answer : Answer) :
      (told.send (.response (some task.id) answer)).accounts.Perm session.accounts := by
    have toldCoherent := (hb.retire ht).alike ha
    have sent := toldCoherent.accounts_send (ha.hasEnded.trans hbl) (some task.id) answer
    rw [ha.accounts] at sent
    exact sent.trans (hba ▸ (hb.accounts_retire ht).symm)
  cases hw with
  | absent missing => exact .refl _
  | refused task answer found consulted alike =>
    exact paid h lives rfl (Coherent.mem_of_task? found).1 alike answer
  | parked task turn call found consulted progress alike =>
    have engaged : (session.withEngine turn.1).Coherent := h.withEngine turn.1
    rw [alike.accounts, engaged.accounts_park (Coherent.mem_of_task? found).1]
    exact .refl _
  | answered task turn outcome answer found consulted progress alike =>
    exact paid (h.withEngine turn.1) lives rfl (Coherent.mem_of_task? found).1 alike answer

/-- A message that waits in its turn is answered or becomes a debt, as long as
the session lasts. -/
theorem Continued.accounts {duty : Duty} {answer : state × Engine.Turn pending}
    {after : Session state pending} (hc : Continued m session duty answer after)
    (h : session.Coherent) (fits : duty.FitsIn session.lifecycle.phase)
    (lasts : after.hasEnded = false) :
    after.accounts.Perm
      ((session.withTurn none).accounts ++ (duty.asker?.map some).toList) := by
  cases hc with
  | waits call progress alike =>
    rw [alike.accounts, accounts_withTurn]
    exact .refl _
  | @ends told after outcome progress alike concluded =>
    have toldCoherent := (h.withEngine answer.1).withoutTurn.alike alike
    have fitsTold : duty.FitsIn told.lifecycle.phase := by
      rw [alike.lifecycle]
      exact fits
    have htold : told.accounts = (session.withTurn none).accounts := alike.accounts
    have lives : told.hasEnded = false := by
      simpa [Session.hasEnded] using fitsTold.ne_exited
    cases concluded with
    | @answered last id said asker hlast =>
      have lastCoherent := (toldCoherent.withLifecycle lives alike.turn
        (Coherent.settle_ne_exited fitsTold outcome)).alike hlast
      have sent := lastCoherent.accounts_send lasts (some id) said
      rw [hlast.accounts] at sent
      rw [asker, ← htold]
      exact sent
    | seen asker stays hlast =>
      rw [hlast.accounts, htold, asker]
      simp
    | @left last leaves hlast =>
      have finished := (toldCoherent.alike hlast).terminated m (hlast.hasEnded.trans lives) .exit
      exact absurd (finished.hasEnded.symm.trans lasts) (by simp)

/-- A message is put to the accounts if it has to be answered, as long as the
session lasts. -/
theorem Upshot.accounts {payload : Bytes} {after : Session state pending}
    (hu : Upshot m session payload after) (h : session.Coherent)
    (lives : session.hasEnded = false) (idle : session.turn = none)
    (lasts : after.hasEnded = false) :
    after.accounts.Perm (session.accounts ++ (session.due payload).toList) := by
  cases hu with
  | ignored due alike =>
    rw [alike.accounts, due]
    simp
  | cancelled id due alike =>
    rw [alike.accounts, due]
    simp [Session.accounts, Session.answered, debts]
  | answered id answer due alike =>
    have sent := (h.alike alike).accounts_send (alike.hasEnded.trans lives) id answer
    rw [alike.accounts] at sent
    rw [due]
    exact sent
  | enlisted id feature params decoded phase free due alike =>
    rw [alike.accounts, due]
    have hdebts : (session.enlist id feature params).debts.Perm (session.debts ++ [id]) := by
      simp only [debts, enlist, idle, List.map_append, List.map_cons, List.map_nil]
      simp
    have hsome := (hdebts.map some).append_left session.answered
    rw [List.map_append, ← List.append_assoc] at hsome
    exact hsome
  | @asked told duty next call due starts operation alike =>
    obtain ⟨begun, fits⟩ := h.begun lives idle starts alike
    have hidle : told.withTurn none = told := by
      have hturn : told.turn = none := alike.turn.trans idle
      unfold withTurn
      rw [← hturn]
    have balance := (begun.asked duty call).accounts begun fits lasts
    rw [hidle, alike.accounts] at balance
    rw [due]
    exact balance

/-- Every act puts to the accounts what is due, as long as the session lasts;
what leaves the queue was answered all the same. -/
theorem Coherent.accounts_perform (h : session.Coherent) (act : Act state)
    (lasts : (session.perform m act).hasEnded = false) :
    ((session.leaving act).filterMap Outgoing.answers? ++ (session.perform m act).accounts).Perm
      (session.accounts ++ (session.received act).filterMap Receipt.due) := by
  have lives := h.lives_of_perform lasts
  have performed : Performed m session act (session.perform m act) := perform_performed h act
  generalize session.perform m act = after at performed lasts ⊢
  cases performed with
  | quiet unread kept other alike =>
    rw [unread, kept, alike.accounts]
    simp
  | handled world payload _ idle hu =>
    have hreads : session.reads = true := h.reads_eq_true_iff.mpr ⟨idle, lives⟩
    have hdue : (session.received (.receive world payload : Act state)).filterMap Receipt.due =
        (session.due payload).toList := by
      simp only [received, hreads, if_true, List.filterMap_cons, List.filterMap_nil, Receipt.due]
      cases session.due payload <;> rfl
    rw [hdue]
    exact hu.accounts h lives idle lasts
  | resumed turn _ waits hc =>
    have hsession : session.withTurn (some turn) = session := by
      unfold Session.withTurn
      rw [← waits]
    have balance := hc.accounts h (h.fits lives waits) lasts
    rw [← accounts_withTurn, hsession] at balance
    simpa [leaving, received] using balance
  | worked ticket hw => simpa [leaving, received] using hw.accounts h lives
  | stirred change => exact .of_eq (List.append_nil _).symm
  | taken => exact .of_eq (List.append_nil _).symm
  | dropped closed =>
    have hopen := h.isOpen
    rw [closed, lives] at hopen
    exact absurd hopen (by decide)
  | @ended act told ending turn unread kept other cut alike =>
    have finished := ((h.cut cut).alike alike).terminated m (alike.hasEnded.trans lives) ending
    exact absurd (finished.hasEnded.symm.trans lasts) (by simp)

end Debts

end Session

/-! ## Runs -/

namespace Chronicle

variable {state pending : Type} {m : Engine state pending} {chronicle : Chronicle state pending}

/-- What was answered so far, and what is owed. -/
def accounts (chronicle : Chronicle state pending) : List (Option RequestId) :=
  chronicle.queued.filterMap Outgoing.answers? ++ chronicle.session.debts.map some

/-- What was due so far. -/
def dues (chronicle : Chronicle state pending) : List (Option RequestId) :=
  chronicle.receipts.filterMap Session.Receipt.due

/-- The accounts of a chronicle are those of its session and what has left the queue. -/
theorem accounts_eq (chronicle : Chronicle state pending) :
    chronicle.accounts =
      chronicle.departed.filterMap Outgoing.answers? ++ chronicle.session.accounts := by
  unfold accounts queued Session.accounts Session.answered
  rw [List.filterMap_append, List.append_assoc]

/-- Every act puts to the accounts what is due, as long as the session lasts. -/
theorem accounts_perform (coherent : chronicle.session.Coherent) (act : Session.Act state)
    (lasts : (chronicle.perform m act).session.hasEnded = false) :
    (chronicle.perform m act).accounts.Perm
      (chronicle.accounts ++
        (chronicle.session.received act).filterMap Session.Receipt.due) := by
  have step := coherent.accounts_perform act lasts
  have hdeparted : (chronicle.perform m act).departed.filterMap Outgoing.answers? =
      chronicle.departed.filterMap Outgoing.answers? ++
        (chronicle.session.leaving act).filterMap Outgoing.answers? :=
    List.filterMap_append
  rw [accounts_eq, accounts_eq, hdeparted, List.append_assoc, List.append_assoc]
  exact step.append_left _

/-- As long as a session lasts, what was answered and what is owed are what was due. -/
theorem accounts_run (engine : state) (config : SessionConfig) (acts : List (Session.Act state))
    (lasts : ((start engine config).run m acts).session.hasEnded = false) :
    ((start engine config).run m acts).accounts.Perm ((start engine config).run m acts).dues := by
  refine run_induction (fun c => c.session.hasEnded = false → c.accounts.Perm c.dues) ?_
    (.create engine config) (fun _ => .refl _) acts lasts
  intro c act coherent balanced lasts
  have before := balanced (coherent.lives_of_perform lasts)
  have hdues : (c.perform m act).dues =
      c.dues ++ (c.session.received act).filterMap Session.Receipt.due :=
    List.filterMap_append
  rw [hdues]
  exact (accounts_perform coherent act lasts).trans (before.append_right _)

end Chronicle

end LspGateway
