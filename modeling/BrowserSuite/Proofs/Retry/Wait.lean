import BrowserSuite.Engine.Wait
import BrowserSuite.Proofs.Retry.Robust

/-!
# Waiting out injected failures

Waiting for a polled call is robust as long as fewer failures are injected than there
are attempts before the deadline.  What a page sees decides how the wait ends:

* If the call would fail with a transient error, then every attempt does so, and the
  wait ends with a timeout (`run_attempts_of_transient`).
* Otherwise the first attempt into which nothing is injected decides
  (`run_attempts_of_final`).  The invariant is `Ample`: so many attempts are left, and
  so much time, that all failures that are still to come are over before the deadline.
-/

namespace BrowserSuite

open Scripted (isPolled)

namespace WaitPolicy

variable {α : Type} {p : WaitPolicy} {w v : World} {operation : Task Handle BrowserError α}
  {awaited : String} {deadline fuel bound : Nat}

/-! ## One attempt -/

/-- What a wait does after its first attempt. -/
theorem run_attempts_succ (p : WaitPolicy) (operation : Task Handle BrowserError α)
    (awaited : String) (deadline fuel : Nat) (w : World) :
    w.run (p.attempts operation awaited deadline (fuel + 1)) =
      match w.run operation with
      | (.value a, v) => (.value a, v)
      | (.panicked q, v) => (.panicked q, v)
      | (.failed e, v) =>
        if e.isTransient then
          if deadline ≤ v.site.clock then (.failed (.timeout awaited), v)
          else
            { v with site := v.site.elapseUntil (min (v.site.clock + p.poll) deadline) }.run
              (p.attempts operation awaited deadline fuel)
        else (.failed (RunError.ofBrowser e), v) := by
  rw [attempts, World.run_bind, World.run_attempt]
  generalize w.run operation = q
  rcases q with ⟨a | e | q, v⟩
  · rfl
  · simp only []
    split
    · rw [World.run_bind]
      change v.run (if deadline ≤ v.site.clock then _ else _) = _
      split
      · rfl
      · rw [World.run_bind]
        rfl
    · rfl
  · rfl

/-- The world in which the attempt after a failure is made. -/
def resumed (p : WaitPolicy) (deadline : Nat) (v : World) : World :=
  { v with site := v.site.elapseUntil (min (v.site.clock + p.poll) deadline) }

/-- If the deadline has not come, waiting for the next attempt takes time and changes
nothing else. -/
theorem resumed_eq (h : v.site.cancelAt = none) (hdeadline : v.site.clock < deadline) :
    p.resumed deadline v =
      { v with site := { v.site with clock := min (v.site.clock + p.poll) deadline } } := by
  unfold resumed Site.elapseUntil
  split
  · -- the next attempt is made at once
    have hclock : min (v.site.clock + p.poll) deadline = v.site.clock := by omega
    rw [hclock]
  · rw [Site.advance_eq h]

theorem calm_resumed (h : v.Calm bound) (hdeadline : v.site.clock < deadline) :
    (p.resumed deadline v).Calm bound := by
  rw [resumed_eq h.uncancelled hdeadline]
  exact h.congr rfl rfl

theorem view_resumed (h : v.Calm bound) (hdeadline : v.site.clock < deadline) :
    (p.resumed deadline v).view = v.view := by
  rw [resumed_eq h.uncancelled hdeadline]
  rfl

/-! ## Calls that fail in every attempt -/

variable {c : Call Handle}

/-- A polled call that fails leaves what a page can tell as it was. -/
theorem performed_of_failed (h : w.Calm bound) (hc : isPolled c = true) {e : BrowserError}
    (hfailed : (w.view.performed c).1 = .failed e) : (w.view.performed c).2 = w.view := by
  have hscene := Scripted.scene_perform_of_failed h.prompt.scene hc hfailed
  rw [Scripted.scene_scene] at hscene
  simp [World.performed, World.view, hscene]

/-- If a polled call would fail with a transient error, an attempt does. -/
theorem run_call_of_transient (h : w.Calm bound) (hc : isPolled c = true) {e : BrowserError}
    (hfailed : (w.view.performed c).1 = .failed e) (htransient : e.isTransient = true) :
    ∃ e' v, w.run (Task.call c) = (.failed e', v) ∧ e'.isTransient = true ∧ v.Calm bound ∧
      v.view = w.view := by
  obtain ⟨hcalm, hends⟩ := h.call c
  generalize w.run (Task.call c) = q at hcalm hends
  cases hends with
  | @undisturbed v hview =>
      exact ⟨e, v, by rw [hfailed], htransient, hcalm,
        hview.trans (performed_of_failed h hc hfailed)⟩
  | @injected e' v htransient' _ hview => exact ⟨e', v, rfl, htransient', hcalm, hview⟩

/-- Then the wait ends with a timeout. -/
theorem run_attempts_of_transient (h : w.Calm bound) (hc : isPolled c = true) {e : BrowserError}
    (hfailed : (w.view.performed c).1 = .failed e) (htransient : e.isTransient = true) :
    ∃ v, w.run (p.attempts (Task.call c) awaited deadline fuel) = (.failed (.timeout awaited), v) ∧
      v.Calm bound ∧ v.view = w.view := by
  -- the view never changes, so what is known of the call goes through the induction
  induction fuel generalizing w with
  | zero => exact ⟨w, rfl, h, rfl⟩
  | succ fuel ih =>
      obtain ⟨e', v, hrun, htransient', hcalm, hview⟩ :=
        run_call_of_transient h hc hfailed htransient
      rw [run_attempts_succ, hrun]
      simp only [htransient', if_true]
      split
      · exact ⟨v, rfl, hcalm, hview⟩
      · rename_i hnot
        have hdeadline := Nat.lt_of_not_le hnot
        have hresumed := view_resumed (p := p) hcalm hdeadline
        obtain ⟨u, hu, hcalm', hview'⟩ := ih (calm_resumed (p := p) hcalm hdeadline)
          (by rw [hresumed, hview]; exact hfailed)
        exact ⟨u, hu, hcalm', by rw [hview', hresumed, hview]⟩

/-! ## Calls that end in some attempt -/

/-- So many attempts and so much time are left that some failures are over before the
deadline. -/
structure Ample (p : WaitPolicy) (failures clock deadline fuel : Nat) : Prop where
  attempts : failures < fuel
  time : failures = 0 ∨ clock + (failures - 1) * p.poll < deadline

/-- After a failure enough attempts and enough time are left for the others. -/
theorem Ample.spend {failures clock : Nat} (h : p.Ample (failures + 1) clock deadline (fuel + 1)) :
    clock < deadline ∧ p.Ample failures (min (clock + p.poll) deadline) deadline fuel := by
  have htime : clock + failures * p.poll < deadline := by simpa using h.time
  refine ⟨by omega, Nat.lt_of_succ_lt_succ h.attempts, ?_⟩
  cases failures with
  | zero => exact .inl rfl
  | succ failures =>
      rw [Nat.succ_mul] at htime
      refine .inr ?_
      simp only [Nat.add_sub_cancel]
      omega

/-- How many failures a wait survives: the timeout in poll intervals, rounded up. -/
def retries (p : WaitPolicy) : Nat := (p.timeout + p.poll - 1) / p.poll

theorem ample_start {failures clock : Nat} (hpoll : 0 < p.poll) (h : failures ≤ p.retries) :
    p.Ample failures clock (clock + p.timeout) p.maxAttempts where
  attempts := by
    rw [maxAttempts, if_neg (Nat.ne_of_gt hpoll)]
    exact Nat.lt_succ_of_le h
  time := by
    cases failures with
    | zero => exact .inl rfl
    | succ failures =>
        have hmul := (Nat.le_div_iff_mul_le hpoll).mp h
        rw [Nat.succ_mul] at hmul
        refine .inr ?_
        simp only [Nat.add_sub_cancel]
        omega

/-- The ending of a wait whose last attempt ended in some way. -/
def settled : Ending BrowserError α → Ending RunError α
  | .value a => .value a
  | .failed e => .failed (RunError.ofBrowser e)
  | .panicked q => .panicked q

/-- If a call does not fail with a transient error unless a failure is injected into it,
the wait ends as the call does. -/
theorem run_attempts_of_final (h : w.Calm bound)
    (hfinal : ∀ e, (w.view.performed c).1 = .failed e → e.isTransient = false)
    (hample : p.Ample w.budget w.site.clock deadline fuel) :
    ∃ v, w.run (p.attempts (Task.call c) awaited deadline fuel) =
        (settled (w.view.performed c).1, v) ∧ v.Calm bound ∧ v.view = (w.view.performed c).2 := by
  -- `Ample` carries the induction: a failure spends one attempt and one poll interval
  induction fuel generalizing w with
  | zero => exact absurd hample.attempts (Nat.not_lt_zero _)
  | succ fuel ih =>
      obtain ⟨hcalm, hends⟩ := h.call c
      rw [run_attempts_succ]
      generalize w.run (Task.call c) = q at hcalm hends
      cases hends with
      | @undisturbed v hview =>
          refine ⟨v, ?_, hcalm, hview⟩
          cases hreply : (w.view.performed c).1 with
          | failed e => simp [hfinal e hreply, settled]
          | value a | panicked q => rfl
      | @injected e v htransient _ hview hclock hbudget =>
          rw [← hbudget, ← hclock] at hample
          obtain ⟨hdeadline, hmore⟩ := hample.spend
          have hresumed := view_resumed (p := p) hcalm hdeadline
          obtain ⟨u, hu, hcalm', hview'⟩ := ih (calm_resumed (p := p) hcalm hdeadline)
            (by rw [hresumed, hview]; exact hfinal)
            (by rw [resumed_eq hcalm.uncancelled hdeadline]; exact hmore)
          rw [hresumed, hview] at hu hview'
          refine ⟨u, ?_, hcalm', hview'⟩
          simp only [htransient, if_true, Nat.not_le.mpr hdeadline, if_false]
          exact hu

/-- The outcome of a wait for a call, as far as a page can tell. -/
def waited (c : Call Handle) (awaited : String) (v : World) : Ending RunError c.Reply × World :=
  match (v.performed c).1 with
  | .failed e =>
    if e.isTransient then (.failed (.timeout awaited), v)
    else (.failed (RunError.ofBrowser e), (v.performed c).2)
  | reply => (settled reply, (v.performed c).2)

end WaitPolicy

open WaitPolicy in
/-- Waiting for a polled call is robust. -/
theorem Robust.wait_call {p : WaitPolicy} {bound : Nat} {c : Call Handle} (hpoll : 0 < p.poll)
    (hbound : bound ≤ p.retries) (hc : isPolled c = true) (awaited : String) :
    Robust bound (p.wait (Task.call c) awaited) := by
  refine of_determined (f := fun v => waited c awaited v) fun w h => ?_
  have hrun : w.run (p.wait (Task.call c) awaited) =
      w.run (p.attempts (Task.call c) awaited (w.site.clock + p.timeout) p.maxAttempts) := rfl
  rw [hrun]
  by_cases htransient :
      ∃ e : BrowserError, (w.view.performed c).1 = .failed e ∧ e.isTransient = true
  · obtain ⟨e, hfailed, htransient⟩ := htransient
    obtain ⟨v, hv, hcalm, hview⟩ := run_attempts_of_transient h hc hfailed htransient
    rw [hv]
    simp only [waited, hfailed, htransient, if_true]
    exact ⟨hcalm, trivial, hview⟩
  · have hfinal : ∀ e, (w.view.performed c).1 = .failed e → e.isTransient = false := by
      intro e hfailed
      exact Bool.eq_false_iff.mpr fun he => htransient ⟨e, hfailed, he⟩
    obtain ⟨v, hv, hcalm, hview⟩ := run_attempts_of_final h hfinal
      (ample_start hpoll (Nat.le_trans h.bounded hbound))
    rw [hv, hview]
    refine ⟨hcalm, ?_, ?_⟩
    · unfold waited
      split
      · rename_i e hfailed
        simp [hfailed, hfinal e hfailed, settled]
      · rfl
    · unfold waited
      split
      · rename_i e hfailed
        simp [hfinal e hfailed]
      · rfl

end BrowserSuite
