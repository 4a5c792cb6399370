import BrowserSuite.Engine.World
import BrowserSuite.Proofs.Program.Endings

/-!
# Runs and their traces

Whoever runs a program answers its requests and so follows one of its paths, the trace of
the run.  What is known of all paths of a task is then known of each of its runs
(`World.ends_trace`), and what is known of all answers is known of each step of the trace
(`Program.trace_forall`).
-/

namespace BrowserSuite

namespace Program

variable {R σ : Type} {Reply : R → Type} {α β : Type} {answer : σ → (r : R) → Reply r × σ}

/-- The requests of a run together with their replies. -/
def trace (answer : σ → (r : R) → Reply r × σ) : Program Reply α → σ → List (Step Reply)
  | done _, _ => []
  | ask r next, s =>
    let (reply, s) := answer s r
    ⟨r, reply⟩ :: trace answer (next reply) s

theorem trace_bind (p : Program Reply α) (f : α → Program Reply β) (s : σ) :
    (p.bind f).trace answer s =
      p.trace answer s ++ (f (p.run answer s).1).trace answer (p.run answer s).2 := by
  induction p generalizing s with
  | done a => rfl
  | ask r next ih => exact congrArg (_ :: ·) (ih _ _)

/-- A run follows its trace to its result. -/
theorem leads_trace (p : Program Reply α) (s : σ) :
    Leads p (p.trace answer s) (done (p.run answer s).1) := by
  induction p generalizing s with
  | done a => exact .nil _
  | ask r next ih => exact .cons _ (ih _ _)

/-- What every answer keeps holds at the end of a run, and what it keeps for its step holds
of all steps. -/
theorem trace_forall {P : σ → Prop} {Q : Step Reply → Prop}
    (hanswer : ∀ s r, P s → P (answer s r).2 ∧ Q ⟨r, (answer s r).1⟩) (p : Program Reply α)
    {s : σ} (hs : P s) : P (p.run answer s).2 ∧ ∀ step ∈ p.trace answer s, Q step := by
  induction p generalizing s with
  | done a => exact ⟨hs, List.forall_mem_nil _⟩
  | ask r next ih =>
      obtain ⟨hs', hstep⟩ := hanswer s r hs
      obtain ⟨hend, hrest⟩ := ih _ hs'
      exact ⟨hend, List.forall_mem_cons.mpr ⟨hstep, hrest⟩⟩

/-- The requests of a run, each with the state that it found. -/
def asked (answer : σ → (r : R) → Reply r × σ) : Program Reply α → σ → List (σ × R)
  | done _, _ => []
  | ask r next, s => (s, r) :: asked answer (next (answer s r).1) (answer s r).2

theorem asked_bind (p : Program Reply α) (f : α → Program Reply β) (s : σ) :
    (p.bind f).asked answer s =
      p.asked answer s ++ (f (p.run answer s).1).asked answer (p.run answer s).2 := by
  induction p generalizing s with
  | done a => rfl
  | ask r next ih => exact congrArg ((s, r) :: ·) (ih _ _)

end Program

namespace World

variable {ε ε' α β : Type}

/-- The requests of a task that is run in a world, together with their replies. -/
def trace (w : World) (t : Task Handle ε α) : List (Task.Step Handle) :=
  Program.trace answer t w

/-- A task that is run goes along its trace to its ending. -/
theorem ends_trace (w : World) (t : Task Handle ε α) : t.Ends (w.trace t) (w.run t).1 :=
  Program.leads_trace t w

/-! ## Runs of composed tasks -/

theorem run_bind (w : World) (t : Task Handle ε α) (f : α → Task Handle ε β) :
    w.run (t >>= f) =
      match w.run t with
      | (.value a, v) => v.run (f a)
      | (.failed e, v) => (.failed e, v)
      | (.panicked p, v) => (.panicked p, v) := by
  refine (Program.run_bind answer t _ w).trans ?_
  unfold World.run
  rcases Program.run answer t w with ⟨_ | _ | _, v⟩ <;> rfl

theorem trace_bind (w : World) (t : Task Handle ε α) (f : α → Task Handle ε β) :
    w.trace (t >>= f) = w.trace t ++
      match w.run t with
      | (.value a, v) => v.trace (f a)
      | _ => [] := by
  refine (Program.trace_bind t _ w).trans (congrArg (w.trace t ++ ·) ?_)
  unfold World.run
  rcases Program.run answer t w with ⟨_ | _ | _, v⟩ <;> rfl

/-- After a value, a composed task goes on in the world that is left. -/
theorem run_bind_of_value {w v : World} {t : Task Handle ε α} {a : α} (h : w.run t = (.value a, v))
    (f : α → Task Handle ε β) : w.run (t >>= f) = v.run (f a) := by
  rw [run_bind, h]

/-- A look at the cancellation changes nothing. -/
theorem run_isCancelled (w : World) :
    w.run (Task.isCancelled : Task Handle ε Bool) = (.value w.site.cancelled, w) := rfl

theorem run_mapError (w : World) (g : ε → ε') (t : Task Handle ε α) :
    w.run (t.mapError g) =
      match w.run t with
      | (.value a, v) => (.value a, v)
      | (.failed e, v) => (.failed (g e), v)
      | (.panicked p, v) => (.panicked p, v) := by
  refine (Program.run_bind answer t _ w).trans ?_
  unfold World.run
  rcases Program.run answer t w with ⟨_ | _ | _, v⟩ <;> rfl

theorem run_attempt (w : World) (t : Task Handle ε α) :
    w.run (t.attempt : Task Handle ε' (Except ε α)) =
      match w.run t with
      | (.value a, v) => (.value (.ok a), v)
      | (.failed e, v) => (.value (.error e), v)
      | (.panicked p, v) => (.panicked p, v) := by
  refine (Program.run_bind answer t _ w).trans ?_
  unfold World.run
  rcases Program.run answer t w with ⟨_ | _ | _, v⟩ <;> rfl

theorem run_ending (w : World) (t : Task Handle ε α) :
    w.run t.ending = ((w.run t).1.caught, (w.run t).2) := by
  refine (Program.run_bind answer t _ w).trans ?_
  unfold World.run
  rcases Program.run answer t w with ⟨_ | _ | ⟨_ | _ | _⟩, v⟩ <;> rfl

end World

end BrowserSuite
