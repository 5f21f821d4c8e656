/-!
# Agendas

Work that creates further work before the work that was already there: each task
changes the state and may put tasks in front of those that are left. That is how
handlers run which themselves make things happen. Work that never ends is cut
off, and what was left of it is told.
-/

namespace LspGateway.Agenda

variable {state task : Type}

/-- Works off an agenda, at most as many tasks as the first argument says; yields
the state and the tasks that are left. -/
def run (work : task → state → state × List task) :
    Nat → List task → state → state × List task
  | _, [], s => (s, [])
  | 0, agenda, s => (s, agenda)
  | fuel + 1, first :: rest, s =>
    let (s, more) := work first s
    run work fuel (more ++ rest) s

/-- Whoever does one task after the other and keeps an account of it works off an agenda that is
put before everything else: `agenda` is what is left to be done by the account, `view` the state
in it, `next` does one task and `steps` several. -/
theorem exists_steps {account item : Type} (work : task → state → state × List task)
    (agenda : account → List item) (view : account → state) (toTask : item → task)
    (next : account → account) (steps : Nat → account → account)
    (none : ∀ a, steps 0 a = a) (succ : ∀ count a, steps (count + 1) a = steps count (next a))
    (step : ∀ a first rest, agenda a = first :: rest → ∃ more, agenda (next a) = more ++ rest ∧
      work (toTask first) (view a) = (view (next a), more.map toTask))
    (fuel : Nat) (a : account) (pending rest : List item) (here : agenda a = pending ++ rest) :
    ∃ count left, agenda (steps count a) = left ++ rest ∧
      run work fuel (pending.map toTask) (view a) = (view (steps count a), left.map toTask) := by
  induction fuel generalizing a pending with
  | zero =>
    refine ⟨0, pending, ?_, ?_⟩
    · rw [none, here]
    · rw [none]
      cases pending <;> rfl
  | succ fuel ih =>
    cases pending with
    | nil => exact ⟨0, [], by rw [none, here], by rw [none]; rfl⟩
    | cons first pending =>
      obtain ⟨more, rest', worked⟩ := step a first (pending ++ rest) here
      obtain ⟨count, left, hagenda, hrun⟩ :=
        ih (next a) (more ++ pending) (rest'.trans (List.append_assoc ..).symm)
      refine ⟨count + 1, left, ?_, ?_⟩
      · rw [succ]
        exact hagenda
      · rw [succ, ← hrun, List.map_append, List.map_cons, run, worked]

/-- How many tasks one outside command may lead to. -/
def patience : Nat := 1000000

end LspGateway.Agenda
