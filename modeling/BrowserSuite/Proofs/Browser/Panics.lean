import BrowserSuite.Proofs.Page.Requests
import BrowserSuite.Proofs.Program.Running

/-!
# What a scripted browser panics with

A scripted browser panics because a rule says so, or because its driver vanishes when a
session is quit.  Calls use rules up but do not change what the script says, so the
panics of a whole run are those the browser was given at its start
(`World.panics_of_trace`).
-/

namespace BrowserSuite

namespace Scripted

variable {b : Scripted} {α : Type} {P : Panic → Prop}

/-! ## The script -/

section Keeps

variable {β : Type} {f : Scripted → β}

theorem withElement_keeps {h : Handle} {g : Element → Ending BrowserError α × Scripted}
    (hg : ∀ e, f (g e).2 = f b) : f (b.withElement h g).2 = f b := by
  unfold withElement
  split
  · exact hg _
  · rfl

variable (hf : ∀ (b : Scripted) elements context calls quits,
  f { b with elements := elements, context := context, calls := calls, quits := quits } = f b)

include hf

theorem lookUp_keeps (b : Scripted) (key : String) : f (b.lookUp key).2 = f b := by
  unfold lookUp
  split
  · rfl
  · have hcounted : f (b.countLookUp key) = f b := hf b _ b.context b.calls b.quits
    dsimp only
    split
    · exact hcounted
    · split <;> exact hcounted

/-- A call that is carried out changes nothing but the elements, where the session is, and
what is written down of calls. -/
theorem perform_keeps (b : Scripted) (c : Call Handle) : f (b.perform c).2 = f b := by
  have hrecord : ∀ call, f (b.record call) = f b := fun call => hf b b.elements b.context _ b.quits
  cases c with
  | find l =>
      have hkept := lookUp_keeps hf b l.text
      simp only [perform]
      split <;> simp_all
  | findAll l =>
      have hkept := lookUp_keeps hf b l.text
      simp only [perform]
      split
      · rfl
      · split <;> simp_all
  | selectByText h label | selectByValue h label =>
      refine withElement_keeps fun e => ?_
      split
      · exact hrecord _
      · rfl
  | click h | clear h | sendKeys h text => exact withElement_keeps fun _ => hrecord _
  | readText h | readAttribute h name => exact withElement_keeps fun _ => rfl
  | switchToFrame target =>
      simp only [perform]
      split
      · exact hf b b.elements _ _ b.quits
      · rfl
  | switchToDefault => exact hf b b.elements _ _ b.quits
  | quit =>
      have hquit := hf b b.elements b.context b.calls (b.quits + 1)
      simp only [perform]
      split <;> exact hquit
  | frames => rfl
  | navigate url | setWindowSize width height | performGestures steps => exact hrecord _

end Keeps

/-- Two browsers with the same rules that behave alike at the ends of a session. -/
structure SameScript (b b' : Scripted) : Prop where
  rules : b'.rules = b.rules
  refuses : b'.refuses = b.refuses
  panicsOnQuit : b'.panicsOnQuit = b.panicsOnQuit

/-- A call that is carried out leaves the script as it is. -/
theorem sameScript_perform (b : Scripted) (c : Call Handle) : SameScript b (b.perform c).2 where
  rules := perform_keeps (fun _ _ _ _ _ => rfl) b c
  refuses := perform_keeps (fun _ _ _ _ _ => rfl) b c
  panicsOnQuit := perform_keeps (fun _ _ _ _ _ => rfl) b c

/-- A rule lets a call be carried out, or the call has no effect and no result. -/
theorem endCall_cases (rule : Option Rule) (b : Scripted)
    (proceed : Scripted → Ending BrowserError α × Scripted) :
    endCall rule b proceed = proceed b ∨
      (endCall rule b proceed).2 = b ∧ ∀ a, (endCall rule b proceed).1 ≠ .value a := by
  cases rule with
  | none => exact .inl rfl
  | some r =>
      unfold endCall
      dsimp only
      split
      · exact .inr ⟨rfl, nofun⟩
      · exact .inr ⟨rfl, nofun⟩
      · exact .inl rfl

/-! ## Panics -/

/-- The panic of a session whose driver vanishes when it is quit. -/
def vanished : Panic := .text "driver process vanished"

/-- All panics in the script of a browser satisfy `P`. -/
structure PanicsOnlyWith (P : Panic → Prop) (b : Scripted) : Prop where
  rules : ∀ r ∈ b.rules, ∀ p, r.panic = some p → P p
  quit : b.panicsOnQuit = true → P vanished

/-- Only the end of a session panics of its own accord. -/
theorem panicsOnQuit_of_perform {c : Call Handle} {p : Panic}
    (h : (b.perform c).1 = .panicked p) : b.panicsOnQuit = true ∧ p = vanished := by
  cases c with
  | quit =>
      simp only [perform] at h
      split at h
      · next hquit => exact ⟨hquit, by cases h; rfl⟩
      · cases h
  | find l =>
      simp only [perform] at h
      split at h <;> cases h
  | findAll l =>
      simp only [perform] at h
      split at h
      · cases h
      · split at h <;> cases h
  | selectByText h' label | selectByValue h' label =>
      simp only [perform, withElement] at h
      split at h
      · split at h <;> cases h
      · cases h
  | click h' | clear h' | sendKeys h' text | readText h' | readAttribute h' name =>
      simp only [perform, withElement] at h
      split at h <;> cases h
  | switchToFrame target =>
      simp only [perform] at h
      split at h <;> cases h
  | navigate url | frames | switchToDefault | setWindowSize width height | performGestures steps =>
      cases h

/-- Finding a rule changes how often rules still apply, not what they do.  The rule that is
found is about calls of the kind that was looked for. -/
theorem takeRule_forall {Q : Rule → Prop}
    (hQ : ∀ r skip times, Q r → Q { r with skip := skip, times := times }) (op key : String)
    {rules : List Rule} (h : ∀ r ∈ rules, Q r) :
    (∀ r ∈ (takeRule op key rules).1, r.op = op ∧ Q r) ∧
      ∀ r ∈ (takeRule op key rules).2, Q r := by
  induction rules with
  | nil => simp [takeRule]
  | cons r rest ih =>
      obtain ⟨hr, hrest⟩ := List.forall_mem_cons.mp h
      obtain ⟨hfound, hleft⟩ := ih hrest
      unfold takeRule
      split
      · next hconcerns =>
          split
          · exact ⟨hfound, List.forall_mem_cons.mpr ⟨hQ r _ r.times hr, hleft⟩⟩
          · refine ⟨?_, List.forall_mem_cons.mpr ⟨hQ r r.skip _ hr, hrest⟩⟩
            rintro _ ⟨⟩
            simp only [Rule.concerns, Bool.and_eq_true, beq_iff_eq] at hconcerns
            exact ⟨hconcerns.1.1, hr⟩
      · exact ⟨hfound, List.forall_mem_cons.mpr ⟨hr, hleft⟩⟩

theorem PanicsOnlyWith.startCall (hb : b.PanicsOnlyWith P) (op key : String) :
    (∀ r ∈ (b.startCall op key).1, ∀ p, r.panic = some p → P p) ∧
      (b.startCall op key).2.PanicsOnlyWith P := by
  obtain ⟨hfound, hleft⟩ := takeRule_forall (Q := fun r => ∀ p, r.panic = some p → P p)
    (fun _ _ _ hr => hr) op key hb.rules
  exact ⟨fun r hr => (hfound r hr).2, hleft, hb.quit⟩

/-- A call is carried out, or it panics or fails as the rule says. -/
theorem panics_endCall {rule : Option Rule} {c : Call Handle} (hb : b.PanicsOnlyWith P)
    (hrule : ∀ r ∈ rule, ∀ p, r.panic = some p → P p) :
    (endCall rule b (·.perform c)).2.PanicsOnlyWith P ∧
      ∀ p, (endCall rule b (·.perform c)).1 = .panicked p → P p := by
  have hperform : (b.perform c).2.PanicsOnlyWith P ∧ ∀ p, (b.perform c).1 = .panicked p → P p := by
    have hsame := sameScript_perform b c
    refine ⟨⟨hsame.rules ▸ hb.rules, hsame.panicsOnQuit ▸ hb.quit⟩, fun p hp => ?_⟩
    obtain ⟨hquit, rfl⟩ := panicsOnQuit_of_perform hp
    exact hb.quit hquit
  cases rule with
  | none => exact hperform
  | some r =>
      unfold endCall
      dsimp only
      split
      · next p hp =>
          refine ⟨hb, ?_⟩
          rintro _ ⟨⟩
          exact hrule r rfl p hp
      · exact ⟨hb, nofun⟩
      · exact hperform

end Scripted

namespace Site

@[simp] theorem browser_elapse (s : Site) (ms : Nat) : (s.elapse ms).browser = s.browser := by
  unfold elapse
  split <;> rfl

@[simp] theorem browser_elapseUntil (s : Site) (time : Nat) :
    (s.elapseUntil time).browser = s.browser := by
  unfold elapseUntil
  split <;> rfl

end Site

namespace World

variable {P : Panic → Prop} {w : World} {ε α : Type}

/-- What a call comes to is a matter of the browser alone. -/
theorem answer_call (w : World) (c : Call Handle) :
    (answer w (.call c)).1 =
        (Scripted.endCall (w.site.browser.startCall (Scripted.opOf c) (Scripted.keyOf c)).1
          (w.site.browser.startCall (Scripted.opOf c) (Scripted.keyOf c)).2 (·.perform c)).1 ∧
      (answer w (.call c)).2.site.browser =
        (Scripted.endCall (w.site.browser.startCall (Scripted.opOf c) (Scripted.keyOf c)).1
          (w.site.browser.startCall (Scripted.opOf c) (Scripted.keyOf c)).2 (·.perform c)).2 := by
  simp [answer, Site.startCall, Site.endCall]

/-- An answer leaves no panics in the script that were not there, and panics with one of
them if it does. -/
theorem panics_answer (r : Effect Handle) (hw : w.site.browser.PanicsOnlyWith P) :
    (answer w r).2.site.browser.PanicsOnlyWith P ∧
      ∀ p, Task.Step.panic? ⟨r, (answer w r).1⟩ = some p → P p := by
  cases r with
  | call c =>
      obtain ⟨hreply, hbrowser⟩ := answer_call w c
      obtain ⟨hfound, hstarted⟩ := hw.startCall (Scripted.opOf c) (Scripted.keyOf c)
      obtain ⟨hleft, hpanics⟩ := Scripted.panics_endCall (c := c) hstarted hfound
      refine ⟨hbrowser ▸ hleft, fun p hp => hpanics p ?_⟩
      rw [← hreply]
      exact Task.Step.panic?_call_iff.mp hp
  | sleep ms | sleepUntil time => exact ⟨by simpa [answer] using hw, nofun⟩
  | now | isCancelled | frameBound | readStore | setVariable key value | log message | draw =>
      exact ⟨hw, nofun⟩

/-- The panics of a run are those in the script. -/
theorem panics_of_trace (hw : w.site.browser.PanicsOnlyWith P) (t : Task Handle ε α) :
    (w.run t).2.site.browser.PanicsOnlyWith P ∧
      ∀ s ∈ w.trace t, ∀ p, s.panic? = some p → P p :=
  Program.trace_forall (P := fun v : World => v.site.browser.PanicsOnlyWith P)
    (Q := fun s : Task.Step Handle => ∀ p, s.panic? = some p → P p)
    (fun _ r hv => panics_answer r hv) t hw

end World

end BrowserSuite
