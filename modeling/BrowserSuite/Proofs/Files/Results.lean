import BrowserSuite.Files.Tree
import BrowserSuite.Proofs.Program.Running

/-!
# What a program on files yields

`FileTask.Yields P task` says that whatever value the task ends with satisfies `P`, however
its requests are answered: no file system is asked about, so the fact holds of a run on
every file tree (`FileTree.yields_run`).  The laws follow the structure of a task.
-/

namespace BrowserSuite

namespace FileTask

variable {ε α β : Type} {P : α → Prop} {Q : β → Prop}

/-- A task that ends with values that satisfy `P` only. -/
def Yields (P : α → Prop) (task : FileTask ε α) : Prop :=
  ∀ steps a, Program.Leads task.run steps (.done (.ok a)) → P a

namespace Yields

theorem trivial (task : FileTask ε α) : Yields (fun _ => True) task := fun _ _ _ => True.intro

theorem pure {a : α} (ha : P a) : Yields P (Pure.pure a : FileTask ε α) := by
  intro steps b h
  obtain ⟨-, hb⟩ := Program.leads_done_iff.mp h
  cases hb
  exact ha

theorem throw (e : ε) : Yields P (MonadExcept.throw e : FileTask ε α) := by
  intro steps b h
  obtain ⟨-, hb⟩ := Program.leads_done_iff.mp h
  cases hb

/-- What comes second can rely on what the first part yields. -/
theorem bind {task : FileTask ε α} {f : α → FileTask ε β} (ht : Yields P task)
    (hf : ∀ a, P a → Yields Q (f a)) : Yields Q (task >>= f) := by
  intro steps b h
  obtain ⟨first, rest, x, -, hfirst, hrest⟩ := Program.leads_bind_done_iff.mp h
  cases x with
  | ok a => exact hf a (ht _ _ hfirst) _ _ hrest
  | error e =>
      obtain ⟨-, hb⟩ := Program.leads_done_iff.mp hrest
      cases hb

/-- A task behind a part of which nothing has to be known. -/
theorem after {task : FileTask ε α} {f : α → FileTask ε β} (hf : ∀ a, Yields Q (f a)) :
    Yields Q (task >>= f) :=
  (trivial task).bind fun a _ => hf a

/-- What every element yields, all elements together yield. -/
theorem mapM {f : α → FileTask ε β} (hf : ∀ a, Yields Q (f a)) (l : List α) :
    Yields (fun bs => ∀ b ∈ bs, Q b) (l.mapM f) := by
  induction l with
  | nil => exact .pure (List.forall_mem_nil _)
  | cons a rest ih =>
      rw [List.mapM_cons]
      exact (hf a).bind fun b hb => ih.bind fun bs hbs =>
        .pure (List.forall_mem_cons.mpr ⟨hb, hbs⟩)

end Yields

end FileTask

namespace FileTree

variable {ε α β : Type}

/-- What a task yields it yields on every file tree. -/
theorem yields_run {P : α → Prop} {task : FileTask ε α} {a : α} (h : task.Yields P)
    (t : FileTree) (hrun : (t.run task).1 = .ok a) : P a := by
  have htrace : Program.Leads task.run _ (.done (task.run.run answer t).1) :=
    Program.leads_trace task.run t
  rw [show (task.run.run answer t).1 = _ from hrun] at htrace
  exact h _ a htrace

/-- After a value, a composed task goes on in the tree that is left. -/
theorem run_bind (t : FileTree) (task : FileTask ε α) (f : α → FileTask ε β) :
    t.run (task >>= f) =
      match t.run task with
      | (.ok a, u) => u.run (f a)
      | (.error e, u) => (.error e, u) := by
  refine (Program.run_bind answer task.run _ t).trans ?_
  unfold FileTree.run
  rcases Program.run answer task.run t with ⟨_ | _, u⟩ <;> rfl

end FileTree

end BrowserSuite
