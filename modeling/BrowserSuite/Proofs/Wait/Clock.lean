import BrowserSuite.Proofs.Program.Running

/-!
# Runs on a clock

Time is part of the state in which requests are answered.  `Timed` says what a task can rely
on there: it is told the time when it asks for it, a pause lasts until the time that it was
asked for, and no request takes time back.  Nothing is said about how long a call takes or
how it ends, so what is proved for timed answers holds for every sequence of replies and
durations.  A world is timed (`World.timed`).
-/

namespace BrowserSuite

variable {σ E α : Type}

/-- How long a run takes. -/
def Program.elapsed (answer : σ → (r : Effect E) → r.Reply E × σ) (clock : σ → Nat)
    (p : Program (Effect.Reply E) α) (s : σ) : Nat :=
  clock (p.run answer s).2 - clock s

/-- What a task can rely on about the time. -/
structure Timed (answer : σ → (r : Effect E) → r.Reply E × σ) (clock : σ → Nat) : Prop where
  now : ∀ s, answer s .now = (clock s, s)
  sleepUntil : ∀ s time, clock (answer s (.sleepUntil time)).2 = max (clock s) time
  le_answer : ∀ s r, clock s ≤ clock (answer s r).2

/-- No run takes time back. -/
theorem Timed.le_run {answer : σ → (r : Effect E) → r.Reply E × σ} {clock : σ → Nat}
    (h : Timed answer clock) (p : Program (Effect.Reply E) α) (s : σ) :
    clock s ≤ clock (p.run answer s).2 := by
  induction p generalizing s with
  | done a => exact Nat.le_refl _
  | ask r next ih => exact Nat.le_trans (h.le_answer s r) (ih _ _)

/-- A program that asks for the time goes on with it in the same state. -/
theorem Timed.run_now {answer : σ → (r : Effect E) → r.Reply E × σ} {clock : σ → Nat}
    (h : Timed answer clock) (next : Nat → Program (Effect.Reply E) α) (s : σ) :
    Program.run answer (.ask .now next) s = (next (clock s)).run answer s ∧
      Program.asked answer (.ask .now next) s = (s, .now) :: (next (clock s)).asked answer s := by
  change Program.run answer (next (answer s .now).1) (answer s .now).2 = _ ∧
    (s, Effect.now) :: Program.asked answer (next (answer s .now).1) (answer s .now).2 = _
  rw [h.now]
  exact ⟨rfl, rfl⟩

/-- What is earlier than a time that the clock can hold is one too. -/
theorem Clock.InRange.mono {time earlier : Nat} (h : InRange time) (hle : earlier ≤ time) :
    InRange earlier :=
  Nat.lt_of_le_of_lt (Nat.div_le_div_right hle) h

namespace Site

theorem clock_elapseUntil (s : Site) (time : Nat) :
    (s.elapseUntil time).clock = max s.clock time := by
  unfold elapseUntil
  split
  · rename_i hpast
    exact (Nat.max_eq_left hpast).symm
  · rename_i hahead
    exact (Nat.max_eq_right (Nat.le_of_not_le hahead)).symm

theorem clock_le_elapse (s : Site) (ms : Nat) : s.clock ≤ (s.elapse ms).clock := by
  unfold elapse
  split
  · exact Nat.le_refl _
  · change s.clock ≤ Clock.after s.clock ms
    unfold Clock.after
    split <;> omega

end Site

/-- The clock of a world goes by the answers of the world. -/
theorem World.timed : Timed World.answer fun w => w.site.clock where
  now _ := rfl
  sleepUntil w time := w.site.clock_elapseUntil time
  le_answer w r := by
    cases r with
    | call c =>
        let started := w.site.startCall (Scripted.opOf c) (Scripted.keyOf c)
        exact started.2.clock_le_elapse (ruleDelay started.1)
    | sleep ms => exact w.site.clock_le_elapse ms
    | sleepUntil time =>
        change w.site.clock ≤ (w.site.elapseUntil time).clock
        rw [Site.clock_elapseUntil]
        exact Nat.le_max_left _ _
    | _ => exact Nat.le_refl _

end BrowserSuite
