import BrowserSuite.Proofs.Program.Running
import BrowserSuite.Proofs.Retry.Scene

/-!
# Tasks that injected failures do not change

The `view` of a world is what a page can tell of it: neither the time nor the rules,
nor how often calls were made and elements looked up.  A world is `Calm` if it is not
going to be cancelled, its elements are prompt, and its rules only inject a bounded
number of transient failures.

A task is `Robust` if on calm worlds with the same view it ends in the same way and
leaves the same view.  Robust tasks are closed under composition, and each request of a
page is robust except for the polled calls: these can fail in one world and succeed in
the other, and only repeating them makes them robust.
-/

namespace BrowserSuite

open Scripted (isPolled opOf keyOf)

namespace Site

variable {s : Site}

theorem advance_eq (h : s.cancelAt = none) (time : Nat) :
    s.advance time = { s with clock := time } := by
  simp [advance, h]

end Site

namespace World

/-- What a page can tell of a world. -/
def view (w : World) : World :=
  { w with site := { w.site with browser := w.site.browser.scene, clock := 0 } }

/-- How many calls the rules of a world can still disturb. -/
def budget (w : World) : Nat := Scripted.budget w.site.browser.rules

/-- A world that is not going to be cancelled, in which nothing but a bounded number of
transient failures can disturb a page. -/
structure Calm (bound : Nat) (w : World) : Prop where
  uncancelled : w.site.cancelAt = none
  prompt : w.site.browser.Prompt
  injects : ∀ r ∈ w.site.browser.rules, r.Injects
  bounded : w.budget ≤ bound

/-- The outcome of a call that no rule disturbs. -/
def performed (w : World) (c : Call Handle) : Ending BrowserError c.Reply × World :=
  let (reply, browser) := w.site.browser.perform c
  (reply, { w with site := { w.site with browser := browser.scene } })

/-- The ways in which a call can end in a calm world. -/
inductive CallEnds (w : World) (c : Call Handle) : Ending BrowserError c.Reply × World → Prop
  | undisturbed {v : World} (hview : v.view = (w.view.performed c).2)
      (hclock : v.site.clock = w.site.clock) (hbudget : v.budget = w.budget) :
      CallEnds w c ((w.view.performed c).1, v)
  | injected {e : BrowserError} {v : World} (htransient : e.isTransient = true)
      (hpolled : isPolled c = true) (hview : v.view = w.view)
      (hclock : v.site.clock = w.site.clock) (hbudget : v.budget + 1 = w.budget) :
      CallEnds w c (.failed e, v)

variable {bound : Nat} {w v : World} {ε ε' α β : Type}

/-- Whether a world is calm is a matter of its browser and of a planned cancellation. -/
theorem Calm.congr (h : w.Calm bound) (hbrowser : v.site.browser = w.site.browser)
    (hcancel : v.site.cancelAt = w.site.cancelAt) : v.Calm bound where
  uncancelled := hcancel.trans h.uncancelled
  prompt := hbrowser ▸ h.prompt
  injects := hbrowser ▸ h.injects
  bounded := by
    rw [budget, hbrowser]
    exact h.bounded

/-! ## One call -/

section Calls

variable {c : Call Handle} {b : Scripted} {r : Scripted.Rule} {e : BrowserError}

/-- A call that no rule is found for is carried out. -/
theorem run_call_of_none (hstart : w.site.browser.startCall (opOf c) (keyOf c) = (none, b)) :
    w.run (Task.call c) =
      ((b.perform c).1, { w with site := { w.site with browser := (b.perform c).2 } }) := by
  change answer w (.call c) = _
  simp [answer, Site.startCall, hstart, ruleDelay, Site.elapse, Site.endCall, Scripted.endCall]

/-- A call into which a rule injects a failure does nothing else. -/
theorem run_call_of_some (hstart : w.site.browser.startCall (opOf c) (keyOf c) = (some r, b))
    (hr : r.Injects) (herror : r.error = some e) :
    w.run (Task.call c) = (.failed e, { w with site := { w.site with browser := b } }) := by
  change answer w (.call c) = _
  simp [answer, Site.startCall, hstart, ruleDelay, Site.elapse, Site.endCall, Scripted.endCall,
    hr.delay, hr.cancels, hr.panic, herror]

/-- In a calm world a call ends in one of the two ways, and the world stays calm. -/
theorem Calm.call (h : w.Calm bound) (c : Call Handle) :
    (w.run (Task.call c)).2.Calm bound ∧ CallEnds w c (w.run (Task.call c)) := by
  have hspends : (∀ r ∈ (w.site.browser.startCall (opOf c) (keyOf c)).2.rules, r.Injects) ∧
      Scripted.Spends (opOf c) w.site.browser.rules
        ((w.site.browser.startCall (opOf c) (keyOf c)).1,
          (w.site.browser.startCall (opOf c) (keyOf c)).2.rules) :=
    Scripted.takeRule_spends (opOf c) (keyOf c) h.injects
  -- counting a call changes neither the scene nor the elements
  have hscene : (w.site.browser.startCall (opOf c) (keyOf c)).2.scene = w.site.browser.scene := rfl
  have hprompt : (w.site.browser.startCall (opOf c) (keyOf c)).2.Prompt := h.prompt
  rcases hstart : w.site.browser.startCall (opOf c) (keyOf c) with ⟨found, b⟩
  rw [hstart] at hspends hscene hprompt
  obtain ⟨hinjects, hspends⟩ := hspends
  cases found with
  | none =>
      have hsteady := Scripted.steady_perform hprompt c
      rw [hscene] at hsteady
      have hbudget : (w.run (Task.call c)).2.budget = w.budget := by
        rw [run_call_of_none hstart]
        exact (congrArg Scripted.budget hsteady.rules).trans hspends
      constructor
      · refine ⟨?_, ?_, ?_, hbudget ▸ h.bounded⟩ <;> rw [run_call_of_none hstart]
        · exact h.uncancelled
        · exact hsteady.prompt
        · intro r hr
          exact hinjects r (hsteady.rules ▸ hr)
      · rw [run_call_of_none hstart] at hbudget ⊢
        have hreply : (w.view.performed c).1 = (b.perform c).1 := hsteady.reply
        rw [← hreply]
        exact .undisturbed (by simp [view, performed, hsteady.scene]) rfl hbudget
  | some r =>
      obtain ⟨hr, hop, hbudget⟩ := hspends
      obtain ⟨e, herror, htransient⟩ := hr.error
      rw [run_call_of_some hstart hr herror]
      constructor
      · refine ⟨h.uncancelled, hprompt, hinjects, Nat.le_trans ?_ h.bounded⟩
        exact Nat.le_of_succ_le (Nat.le_of_eq hbudget)
      · refine .injected htransient ?_ ?_ rfl hbudget
        · exact Scripted.opOf_mem_polledOps.mp (hop ▸ hr.op)
        · simp [view, hscene]

end Calls

/-! ## Robust tasks -/

/-- Two calm worlds with the same view. -/
structure Alike (bound : Nat) (w v : World) : Prop where
  left : w.Calm bound
  right : v.Calm bound
  view_eq : w.view = v.view

end World

open World (Alike)

/-- A task that ends alike in worlds that are alike. -/
def Robust {ε α : Type} (bound : Nat) (t : Task Handle ε α) : Prop :=
  ∀ w v : World, Alike bound w v → (w.run t).1 = (v.run t).1 ∧ Alike bound (w.run t).2 (v.run t).2

namespace Robust

variable {bound : Nat} {ε ε' α β : Type} {t : Task Handle ε α}

/-- A task is robust if what it does to the view of a calm world is determined by it. -/
theorem of_determined {f : World → Ending ε α × World}
    (h : ∀ w : World, w.Calm bound →
      (w.run t).2.Calm bound ∧ (w.run t).1 = (f w.view).1 ∧ (w.run t).2.view = (f w.view).2) :
    Robust bound t := by
  intro w v hwv
  obtain ⟨hw, hreply, hview⟩ := h w hwv.left
  obtain ⟨hv, hreply', hview'⟩ := h v hwv.right
  rw [hwv.view_eq] at hreply hview
  exact ⟨hreply.trans hreply'.symm, hw, hv, hview.trans hview'.symm⟩

theorem ended (e : Ending ε α) : Robust bound (Task.ended e : Task Handle ε α) :=
  fun _ _ h => ⟨rfl, h⟩

theorem pure (a : α) : Robust bound (Pure.pure a : Task Handle ε α) := ended (.value a)

theorem fail (e : ε) : Robust bound (Task.fail e : Task Handle ε α) := ended (.failed e)

/-- In worlds that are alike, a robust task gives one reply and two worlds that are alike. -/
theorem outcomes {w v : World} (ht : Robust bound t) (hwv : Alike bound w v) :
    ∃ reply w' v', w.run t = (reply, w') ∧ v.run t = (reply, v') ∧ Alike bound w' v' := by
  obtain ⟨hreply, halike⟩ := ht w v hwv
  exact ⟨(w.run t).1, (w.run t).2, (v.run t).2, rfl, Prod.ext hreply.symm rfl, halike⟩

theorem bind {f : α → Task Handle ε β} (ht : Robust bound t) (hf : ∀ a, Robust bound (f a)) :
    Robust bound (t >>= f) := by
  intro w v hwv
  obtain ⟨reply, w', v', hw, hv, halike⟩ := ht.outcomes hwv
  rw [World.run_bind, World.run_bind, hw, hv]
  cases reply with
  | value a => exact hf a w' v' halike
  | failed e | panicked p => exact ⟨rfl, halike⟩

theorem mapError (g : ε → ε') (ht : Robust bound t) : Robust bound (t.mapError g) := by
  intro w v hwv
  obtain ⟨reply, w', v', hw, hv, halike⟩ := ht.outcomes hwv
  rw [World.run_mapError, World.run_mapError, hw, hv]
  cases reply <;> exact ⟨rfl, halike⟩

/-! ## Requests -/

theorem readStore : Robust bound (Task.readStore : Task Handle ε Store) :=
  of_determined (f := fun v => (.value v.store, v)) fun _ h => ⟨h, rfl, rfl⟩

theorem setVariable (key : String) (value : Json.Value) :
    Robust bound (Task.setVariable key value : Task Handle ε Unit) :=
  of_determined (f := fun v => (.value (), { v with store := v.store.set key value }))
    fun _ h => ⟨h.congr rfl rfl, rfl, rfl⟩

theorem log (message : String) : Robust bound (Task.log message : Task Handle ε Unit) :=
  of_determined (f := fun v => (.value (), { v with log := v.log ++ [message] }))
    fun _ h => ⟨h.congr rfl rfl, rfl, rfl⟩

theorem isCancelled : Robust bound (Task.isCancelled : Task Handle ε Bool) :=
  of_determined (f := fun v => (.value v.site.cancelled, v)) fun _ h => ⟨h, rfl, rfl⟩

theorem draw : Robust bound (Task.draw : Task Handle ε Nat) :=
  of_determined
    (f := fun v => (.value v.site.drawNumber.1.val, { v with site := v.site.drawNumber.2 }))
    fun _ h => ⟨h.congr rfl rfl, rfl, rfl⟩

/-- A pause changes nothing but the time. -/
theorem sleep (ms : Nat) : Robust bound (Task.sleep ms : Task Handle ε Unit) := by
  refine of_determined (f := fun v => (.value (), v)) fun w h => ?_
  have hrun : w.run (Task.sleep ms : Task Handle ε Unit) =
      (.value (), { w with site := w.site.elapse ms }) := rfl
  rw [hrun, Site.elapse]
  split
  · exact ⟨h, rfl, rfl⟩
  · rw [Site.advance_eq h.uncancelled]
    exact ⟨h.congr rfl rfl, rfl, rfl⟩

/-- A call that is not polled is never disturbed. -/
theorem call {c : Call Handle} (hc : isPolled c = false) : Robust bound (Task.call c) := by
  refine of_determined (f := fun v => v.performed c) fun w h => ?_
  obtain ⟨hcalm, hends⟩ := h.call c
  generalize w.run (Task.call c) = p at hcalm hends
  cases hends with
  | undisturbed hview => exact ⟨hcalm, rfl, hview⟩
  | injected _ hpolled => simp [hc] at hpolled

end Robust

end BrowserSuite
