import BrowserSuite.Proofs.Page.Preludes
import BrowserSuite.Proofs.Program.Running

/-!
# When an action writes

An action writes to the worker's store and to the log, and it can fail.  It does the one
after the other: whatever writes comes behind everything that can fail.

A task that `WritesLast` has written nothing wherever it ends without a value.  A silent task
in front of one keeps that, and so does a value behind it, so every orderly task writes last
(`Orderly.writesLast`), and with it every instruction, whoever answers its requests.

What a run leaves in the store and in the log can be read off its trace (`World.store_run`,
`World.log_run`), so an action that is run in a world and fails there leaves both alone
(`World.kept_of_writesLast`).
-/

namespace BrowserSuite

/-! ## Tasks that write last -/

namespace Task

variable {E ε α β : Type} {t : Task E ε α}

/-- A task that has written nothing wherever it ends without a value. -/
def WritesLast (t : Task E ε α) : Prop :=
  ∀ steps x, t.Ends steps x → (∀ a, x ≠ .value a) → ∀ s ∈ steps, s.request.writes = false

theorem Silent.writesLast (ht : Silent t) : WritesLast t := fun steps x h _ => ht steps x h

/-- What can fail before a task that writes last is silent. -/
theorem Silent.bind_writesLast {f : α → Task E ε β} (ht : Silent t)
    (hf : ∀ a, WritesLast (f a)) : WritesLast (t >>= f) := by
  intro steps x h hx
  rcases ends_bind_cases h with ⟨first, rest, a, rfl, hfirst, hrest⟩ | ⟨e, -, h⟩ | ⟨p, -, h⟩
  · exact List.forall_mem_append.mpr ⟨ht _ _ hfirst, hf a _ _ hrest hx⟩
  · exact ht _ _ h
  · exact ht _ _ h

namespace WritesLast

/-- Nothing can fail behind a task that writes last. -/
theorem bind_pure (ht : WritesLast t) (g : α → β) : WritesLast (t >>= fun a => pure (g a)) := by
  intro steps x h hx
  rcases ends_bind_cases h with ⟨first, rest, a, -, -, hrest⟩ | ⟨e, -, h⟩ | ⟨p, -, h⟩
  · exact absurd (ends_ended_iff.mp hrest).2 (hx (g a))
  · exact ht _ _ h nofun
  · exact ht _ _ h nofun

/-- One request cannot fail. -/
theorem ask {r : Effect E} {value : r.Reply E → α} :
    WritesLast (Program.ask r fun reply => ended (.value (value reply)) : Task E ε α) := by
  intro steps x h hx
  obtain ⟨reply, -, rfl⟩ := ends_ask_value h
  exact absurd rfl (hx _)

end WritesLast

end Task

namespace PageRun

variable {E α : Type}

/-- A task that is orderly writes last. -/
theorem Orderly.writesLast {own : Panic → Prop} {t : Task E RunError α} (ht : Orderly own t) :
    t.WritesLast := by
  induction ht with
  | prelude ht => exact ht.silent.writesLast
  | setVariable key value => exact .ask
  | log message => exact .ask
  | after ht _ ihf => exact ht.silent.bind_writesLast ihf
  | last _ g ih => exact ih.bind_pure g

/-- Every instruction writes last. -/
theorem writesLast_execute (wait : WaitPolicy) (chain : Option (Chain E)) (i : Instruction) :
    (execute wait chain i).WritesLast :=
  (orderly_execute wait chain i).writesLast

end PageRun

/-! ## Runs in a world -/

/-- The store that is left by the settings of variables on a path. -/
def Task.assigned {E : Type} (store : Store) (steps : List (Task.Step E)) : Store :=
  steps.foldl (fun store s => match s.request with
    | .setVariable key value => store.set key value
    | _ => store) store

namespace World

variable {ε α : Type}

/-- A run leaves the store that the assignments in its trace make. -/
theorem store_run (w : World) (t : Task Handle ε α) :
    (w.run t).2.store = Task.assigned w.store (w.trace t) := by
  change (Program.run answer t w).2.store = Task.assigned w.store (Program.trace answer t w)
  induction t generalizing w with
  | done e => rfl
  | ask r next ih =>
      refine (ih _ _).trans ?_
      cases r <;> rfl

/-- A run adds the messages in its trace to the log. -/
theorem log_run (w : World) (t : Task Handle ε α) :
    (w.run t).2.log = w.log ++ Task.messages (w.trace t) := by
  change (Program.run answer t w).2.log = w.log ++ Task.messages (Program.trace answer t w)
  induction t generalizing w with
  | done e => exact (List.append_nil _).symm
  | ask r next ih =>
      refine (ih _ _).trans ?_
      rw [Program.trace, Task.messages_cons]
      cases r <;> simp [answer, Task.Step.message?]

/-- A run whose trace holds no writing request leaves the store and the log alone. -/
theorem kept_of_trace {w : World} {t : Task Handle ε α}
    (h : ∀ s ∈ w.trace t, s.request.writes = false) :
    (w.run t).2.store = w.store ∧ (w.run t).2.log = w.log := by
  rw [store_run, log_run]
  generalize w.trace t = steps at h
  induction steps with
  | nil => exact ⟨rfl, List.append_nil _⟩
  | cons s rest ih =>
      obtain ⟨hs, hrest⟩ := List.forall_mem_cons.mp h
      obtain ⟨hstore, hlog⟩ := ih hrest
      obtain ⟨r, reply⟩ := s
      cases r with
      | setVariable key value => cases hs
      | log message => cases hs
      | _ => exact ⟨hstore, hlog⟩

/-- A task that writes last and does not end with a value leaves the store and the log
alone. -/
theorem kept_of_writesLast {w : World} {t : Task Handle ε α} (ht : t.WritesLast)
    (hfailed : ∀ a, (w.run t).1 ≠ .value a) :
    (w.run t).2.store = w.store ∧ (w.run t).2.log = w.log :=
  kept_of_trace (ht _ _ (w.ends_trace t) hfailed)

end World

end BrowserSuite
