import BrowserSuite.Proofs.Page.Requests

/-!
# What an instruction does before it writes

A prelude is what an instruction does before it writes.  It writes nothing itself
(`Prelude.silent`), and it fails for a reason that only the execution of an instruction has
or as a session call does (`Prelude.failsWith`).  The write behind a prelude cannot fail, so
every orderly task fails in that way too (`Orderly.failsWith`).
-/

namespace BrowserSuite

/-! ## How tasks fail -/

namespace Task

variable {E ε ε' α β : Type} {Q : ε → Prop} {t : Task E ε α}

/-- A task that writes nothing on any of its paths. -/
abbrev Silent (t : Task E ε α) : Prop := Asks (fun r => r.writes = false) t

/-- A task that fails with errors that satisfy `Q` only. -/
def FailsWith (Q : ε → Prop) (t : Task E ε α) : Prop :=
  ∀ steps e, t.Ends steps (.failed e) → Q e

namespace FailsWith

theorem pure (a : α) : FailsWith Q (Pure.pure a : Task E ε α) :=
  fun _ _ h => nomatch (ends_ended_iff.mp h).2

theorem panicWith (p : Panic) : FailsWith Q (Task.panicWith p : Task E ε α) :=
  fun _ _ h => nomatch (ends_ended_iff.mp h).2

theorem fail {e : ε} (he : Q e) : FailsWith Q (Task.fail e : Task E ε α) := by
  intro steps e' h
  cases (ends_ended_iff.mp h).2
  exact he

theorem ask {r : Effect E} {value : r.Reply E → α} :
    FailsWith Q (Program.ask r fun reply => Task.ended (.value (value reply)) : Task E ε α) := by
  intro steps e h
  obtain ⟨reply, -, hvalue⟩ := ends_ask_value h
  cases hvalue

theorem bind {f : α → Task E ε β} (ht : FailsWith Q t) (hf : ∀ a, FailsWith Q (f a)) :
    FailsWith Q (t >>= f) := by
  intro steps e h
  rcases ends_bind_cases h with ⟨_, _, a, -, -, hrest⟩ | ⟨_, he, h⟩ | ⟨_, hp, -⟩
  · exact hf a _ _ hrest
  · cases he
    exact ht _ _ h
  · cases hp

theorem attempt (t : Task E ε' α) : FailsWith Q (t.attempt : Task E ε (Except ε' α)) := by
  intro steps e h
  obtain ⟨x, -, hx⟩ := ends_attempt_iff.mp h
  cases x <;> cases hx

theorem mapError {g : ε' → ε} (hg : ∀ e, Q (g e)) (t : Task E ε' α) :
    FailsWith Q (t.mapError g) := by
  intro steps e h
  obtain ⟨x, -, hx⟩ := ends_mapError_iff.mp h
  cases x <;> cases hx
  exact hg _

end FailsWith

end Task

namespace PageRun

open BrowserSuite.Task (Silent FailsWith)

variable {E α : Type} {t : Task E RunError α} {own : Panic → Prop}

/-! ## Preludes write nothing -/

/-- Nor do attempts: they ask the session, and how deep frames are searched. -/
theorem Attempt.silent {t : Task E BrowserError α} (ht : Attempt t) : Silent t :=
  ht.keeps (Task.Asks.sessionLaw fun _ _ => rfl) (.ask rfl fun _ => .ended _)

theorem Prelude.silent (ht : Prelude own t) : Silent t := by
  induction ht with
  | pure a => exact .pure a
  | fail e => exact .fail e
  | panic _ => exact .ended _
  | plain r _ hwrites value => exact .ask hwrites fun _ => .ended _
  | probe ht => exact (Attempt.probe ht).silent.mapError _
  | bind _ _ ih ihf => exact ih.bind ihf
  | trying ht _ _ hlost ihok iherror =>
      refine ht.silent.attempt.bind fun r => ?_
      rcases attempt_cases r with ⟨a, rfl⟩ | ⟨d, rfl⟩ | ⟨e, rfl, he⟩
      · exact ihok a
      · rw [hlost]
        exact .fail _
      · exact iherror e he

/-! ## How an instruction fails -/

section Failures

variable {Q : RunError → Prop}

/-- A prelude fails for a reason of its own or with the error of a session call. -/
theorem Prelude.failsWith (hown : ∀ e : RunError, e.isOfExecution = true → Q e)
    (hcall : ∀ e, Q (RunError.ofBrowser e)) (ht : Prelude own t) : FailsWith Q t := by
  induction ht with
  | pure a => exact .pure a
  | fail e he => exact .fail (hown e he)
  | panic _ => exact .panicWith _
  | plain r _ _ value => exact .ask
  | probe ht => exact .mapError hcall _
  | bind _ _ ih ihf => exact ih.bind ihf
  | trying _ _ _ hlost ihok iherror =>
      refine (FailsWith.attempt _).bind fun r => ?_
      rcases attempt_cases r with ⟨a, rfl⟩ | ⟨d, rfl⟩ | ⟨e, rfl, he⟩
      · exact ihok a
      · rw [hlost]
        exact .fail (hcall (.session d))
      · exact iherror e he

/-- So does an orderly task: its write cannot fail. -/
theorem Orderly.failsWith (hown : ∀ e : RunError, e.isOfExecution = true → Q e)
    (hcall : ∀ e, Q (RunError.ofBrowser e)) (ht : Orderly own t) : FailsWith Q t := by
  induction ht with
  | prelude ht => exact ht.failsWith hown hcall
  | setVariable key value => exact .ask
  | log message => exact .ask
  | after ht _ ihf => exact (ht.failsWith hown hcall).bind ihf
  | last _ g ih => exact ih.bind fun a => .pure (g a)

end Failures

end PageRun

end BrowserSuite
