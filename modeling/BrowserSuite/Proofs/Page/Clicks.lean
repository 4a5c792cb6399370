import BrowserSuite.Proofs.Browser.Panics
import BrowserSuite.Proofs.Wait.Clock
import Mathlib.Algebra.Ring.Nat

/-!
# Clicking every match

Clicking all elements that a locator matches is meant for pages that change under the clicks,
so a click that fails is passed over: the element may have gone with an earlier one.  Only a
lost session is not, for nothing can be clicked without one.

`ClicksEach` says which clicks these are.  A session that does not panic is asked for the
matches and then for these clicks (`clickEach_ends`), and for nothing else, so nothing is tried
twice and no time passes but what the calls take (`click_all_clicks_each_match`).
-/

namespace BrowserSuite

/-! ## The time that calls take -/

namespace Program

variable {σ E α : Type} {answer : σ → (r : Effect E) → r.Reply E × σ} {clock : σ → Nat}

/-- How long the session calls of a run take. -/
def callTime (answer : σ → (r : Effect E) → r.Reply E × σ) (clock : σ → Nat)
    (p : Program (Effect.Reply E) α) (s : σ) : Nat :=
  ((p.asked answer s).map fun (v, r) =>
    match r with
    | .call c => clock (answer v (.call c)).2 - clock v
    | _ => 0).sum

/-- A run that asks for nothing but calls takes as long as its calls do. -/
theorem elapsed_eq_callTime (h : Timed answer clock) (p : Program (Effect.Reply E) α) {s : σ}
    (hcalls : ∀ step ∈ p.trace answer s, ∃ c, step.request = .call c) :
    p.elapsed answer clock s = p.callTime answer clock s := by
  induction p generalizing s with
  | done a => exact Nat.sub_self _
  | ask r next ih =>
      obtain ⟨⟨c, hc⟩, hrest⟩ := List.forall_mem_cons.mp hcalls
      obtain rfl : r = .call c := hc
      have hfirst : clock s ≤ clock (answer s (.call c)).2 := h.le_answer s (.call c)
      have hlater := h.le_run (next (answer s (.call c)).1) (answer s (.call c)).2
      calc clock (run answer (next (answer s (.call c)).1) (answer s (.call c)).2).2 - clock s
          = (clock (answer s (.call c)).2 - clock s) +
              elapsed answer clock (next (answer s (.call c)).1) (answer s (.call c)).2 := by
            unfold elapsed
            omega
        _ = (clock (answer s (.call c)).2 - clock s) +
              callTime answer clock (next (answer s (.call c)).1) (answer s (.call c)).2 := by
            rw [ih _ hrest]

end Program

/-! ## Clicks -/

/-- A click that was made on an element, and how it was answered. -/
structure Click (E : Type) where
  element : E
  answer : Ending BrowserError Unit
  deriving DecidableEq

namespace Click

variable {E : Type}

/-- The click as a step of a task. -/
def step (c : Click E) : Task.Step E := ⟨.call (.click c.element), c.answer⟩

/-- With which detail a click was answered that the session is lost. -/
def loss? (c : Click E) : Option String :=
  match c.answer with
  | .failed e => e.loss?
  | _ => none

/-- What a browser writes down of a click: the element, if the click took effect. -/
def record? (c : Click Handle) : Option String :=
  if c.answer = .value () then some s!"click {c.element.key}" else none

end Click

/-- One click on each of some elements, in their order: on all of them, whatever the answers are,
or up to the first one that is answered with a lost session. -/
inductive ClicksEach {E α : Type} (elements : List E) (result : α) :
    List (Click E) → Ending RunError α → Prop
  | all {made : List (Click E)} (hmade : made.map Click.element = elements)
      (hkept : ∀ c ∈ made, c.loss? = none) : ClicksEach elements result made (.value result)
  | lost {before : List (Click E)} {last : Click E} {after : List E} {detail : String}
      (hmade : elements = before.map Click.element ++ last.element :: after)
      (hkept : ∀ c ∈ before, c.loss? = none) (hlost : last.loss? = some detail) :
      ClicksEach elements result (before ++ [last]) (.failed (.session detail))

/-- After a click that has not lost the session, the other elements are clicked. -/
theorem ClicksEach.cons {E α : Type} {elements : List E} {result : α} {made : List (Click E)}
    {x : Ending RunError α} (h : ClicksEach elements result made x) (c : Click E)
    (hc : c.loss? = none) : ClicksEach (c.element :: elements) result (c :: made) x := by
  cases h with
  | all hmade hkept =>
      exact .all (by rw [List.map_cons, hmade]) (List.forall_mem_cons.mpr ⟨hc, hkept⟩)
  | @lost before _ _ _ hmade hkept hlost =>
      have hlonger : ∀ b ∈ c :: before, b.loss? = none := List.forall_mem_cons.mpr ⟨hc, hkept⟩
      exact .lost (congrArg (c.element :: ·) hmade) hlonger hlost

namespace PageRun

variable {E α : Type}

/-- Whoever answers them, the clicks on some elements that come before a result are such
clicks, unless one of them panics. -/
theorem clickEach_ends {elements : List E} {result : α} {steps : List (Task.Step E)}
    {x : Ending RunError α} (h : (clickEach elements >>= fun _ => pure result).Ends steps x)
    (hcalls : ∀ s ∈ steps, s.panic? = none) :
    ∃ made, steps = made.map Click.step ∧ ClicksEach elements result made x := by
  induction elements generalizing steps with
  | nil =>
      obtain ⟨rfl, rfl⟩ := Task.ends_ended_iff.mp h
      exact ⟨[], rfl, .all rfl (List.forall_mem_nil _)⟩
  | cons element rest ih =>
      rw [clickEach, bind_assoc] at h
      rcases Task.ends_attempt_bind_cases h with
        ⟨first, more, y, r, rfl, hfirst, hr, hmore⟩ | ⟨p, -, hpanic⟩
      · obtain rfl := Task.ends_call_iff.mp hfirst
        obtain ⟨-, hothers⟩ := List.forall_mem_append.mp hcalls
        cases y with
        | value u =>
            cases hr
            obtain ⟨made, rfl, hmade⟩ := ih hmore hothers
            exact ⟨⟨element, .value u⟩ :: made, rfl, hmade.cons ⟨element, .value u⟩ rfl⟩
        | failed e =>
            cases hr
            cases e with
            | session d =>
                -- the session is lost, and nothing more is clicked
                obtain ⟨rfl, rfl⟩ := Task.ends_ended_iff.mp hmore
                have hfirst : ClicksEach (element :: rest) result
                    ([] ++ [⟨element, .failed (.session d)⟩]) (.failed (.session d)) :=
                  .lost rfl (List.forall_mem_nil _) rfl
                exact ⟨[⟨element, .failed (.session d)⟩], rfl, hfirst⟩
            | _ =>
                obtain ⟨made, rfl, hmade⟩ := ih hmore hothers
                exact ⟨⟨element, .failed _⟩ :: made, rfl, hmade.cons ⟨element, .failed _⟩ rfl⟩
        | panicked p => cases hr
      · obtain rfl := Task.ends_call_iff.mp hpanic
        cases hcalls _ (List.mem_singleton_self _)

theorem execute_clickAll (wait : WaitPolicy) (chain : Option (Chain E)) {kind target : String}
    {l : Locator} (hl : locator kind target = .ok l) :
    execute wait chain (.clickAll kind target) =
      Task.callOrStop (.findAll l) >>= fun elements =>
        clickEach elements >>= fun _ => pure chain := by
  simp only [execute, hl, orStop, pure_bind]

end PageRun

/-! ## What the browser writes down -/

namespace Scripted

theorem calls_lookUp (b : Scripted) (key : String) : (b.lookUp key).2.calls = b.calls := by
  unfold lookUp
  split
  · rfl
  · dsimp only
    split
    · rfl
    · split <;> rfl

theorem calls_perform_findAll (b : Scripted) (l : Locator) :
    (b.perform (.findAll l)).2.calls = b.calls := by
  have hlooked := calls_lookUp b l.text
  simp only [perform]
  split
  · rfl
  · split <;> simp_all

theorem calls_perform_click (b : Scripted) (h : Handle) :
    (b.perform (.click h)).2.calls =
      b.calls ++ (Click.record? ⟨h, (b.perform (.click h)).1⟩).toList := by
  simp only [perform, withElement]
  split
  · rfl
  · exact (List.append_nil _).symm

end Scripted

namespace World

variable {ε α : Type}

theorem trace_callOrStop (w : World) (c : Call Handle) :
    w.trace (Task.callOrStop c) = [⟨.call c, (w.run (Task.call c)).1⟩] := by
  refine (Program.trace_bind (Task.call c) _ w).trans ?_
  cases (Program.run answer (Task.call c) w).1 <;> rfl

theorem calls_answer_findAll (w : World) (l : Locator) :
    (answer w (.call (.findAll l))).2.site.browser.calls = w.site.browser.calls := by
  rw [(answer_call w (.findAll l)).2]
  rcases Scripted.endCall_cases _ _ _ with hproceed | ⟨hsame, -⟩
  · rw [hproceed]
    exact Scripted.calls_perform_findAll _ l
  · rw [hsame]
    rfl

theorem calls_answer_click (w : World) (h : Handle) :
    (answer w (.call (.click h))).2.site.browser.calls =
      w.site.browser.calls ++ (Click.record? ⟨h, (answer w (.call (.click h))).1⟩).toList := by
  obtain ⟨hreply, hbrowser⟩ := answer_call w (.click h)
  rw [hreply, hbrowser]
  rcases Scripted.endCall_cases _ _ _ with hproceed | ⟨hsame, hne⟩
  · rw [hproceed]
    exact Scripted.calls_perform_click _ h
  · rw [hsame, Click.record?, if_neg (hne ())]
    exact (List.append_nil _).symm

/-- A run that does nothing but click writes down the clicks that took effect. -/
theorem calls_run_of_clicks {w : World} {t : Task Handle ε α} {made : List (Click Handle)}
    (h : w.trace t = made.map Click.step) :
    (w.run t).2.site.browser.calls = w.site.browser.calls ++ made.filterMap Click.record? := by
  change Program.trace answer t w = made.map Click.step at h
  change (Program.run answer t w).2.site.browser.calls = _
  induction t generalizing w made with
  | done e =>
      obtain rfl : made = [] := List.map_eq_nil_iff.mp h.symm
      exact (List.append_nil _).symm
  | ask r next ih =>
      obtain ⟨⟨element, reply⟩, rest, rfl, hstep, hrest⟩ := List.map_eq_cons_iff.mp h.symm
      obtain rfl : .call (.click element) = r := congrArg Program.Step.request hstep
      obtain rfl : reply = (answer w (.call (.click element))).1 := by
        cases hstep
        rfl
      refine (ih _ hrest.symm).trans ?_
      refine (congrArg (· ++ rest.filterMap Click.record?) (calls_answer_click w element)).trans ?_
      rw [List.append_assoc]
      cases hrecord : Click.record? ⟨element, (answer w (.call (.click element))).1⟩ <;>
        simp [hrecord]

end World

open PageRun in
/-- When the matches of a locator are found and no click panics, each match is clicked once, in
the order of the matches, up to the first click that is answered with a lost session; the action
fails with that loss, and with no other.  Nothing but the matches and these clicks is asked for,
so no time passes that the calls do not take, and the clicks that the browser writes down are
those that succeeded. -/
theorem click_all_clicks_each_match (wait : WaitPolicy) (chain : Option (Chain Handle))
    (w : World) {kind target : String} {l : Locator} {elements : List Handle}
    (hl : locator kind target = .ok l)
    (hfound : (w.run (Task.call (.findAll l))).1 = .value elements)
    (hcalls : ∀ s ∈ w.trace (execute wait chain (.clickAll kind target)), s.panic? = none) :
    let clickAll : Task Handle RunError (Option (Chain Handle)) :=
      execute wait chain (.clickAll kind target)
    let clock := fun v : World => v.site.clock
    ∃ made,
      w.trace clickAll = ⟨.call (.findAll l), .value elements⟩ :: made.map Click.step ∧
        ClicksEach elements chain made (w.run clickAll).1 ∧
        (w.run clickAll).2.site.browser.calls =
          w.site.browser.calls ++ made.filterMap Click.record? ∧
        Program.elapsed World.answer clock clickAll w =
          Program.callTime World.answer clock clickAll w := by
  intro clickAll clock
  let v := (w.run (Task.call (.findAll l))).2
  let clicks : Task Handle RunError (Option (Chain Handle)) :=
    clickEach elements >>= fun _ => pure chain
  have hmatches : w.run (Task.callOrStop (.findAll l)) = (.value elements, v) := by
    rw [Task.callOrStop, World.run_mapError,
      show w.run (Task.call (.findAll l)) = (.value elements, v) from Prod.ext hfound rfl]
  have hrun : w.run clickAll = v.run clicks := by
    rw [show clickAll = _ from execute_clickAll wait chain hl]
    exact World.run_bind_of_value hmatches _
  have htrace : w.trace clickAll = ⟨.call (.findAll l), .value elements⟩ :: v.trace clicks := by
    rw [show clickAll = _ from execute_clickAll wait chain hl, World.trace_bind, hmatches]
    exact congrArg (· ++ v.trace clicks) (hfound ▸ World.trace_callOrStop w (.findAll l))
  obtain ⟨-, hquiet⟩ := List.forall_mem_cons.mp (htrace ▸ hcalls)
  obtain ⟨made, hmade, heach⟩ := clickEach_ends (v.ends_trace clicks) hquiet
  refine ⟨made, htrace.trans (congrArg _ hmade), ?_, ?_, ?_⟩
  · rw [hrun]
    exact heach
  · rw [hrun, World.calls_run_of_clicks hmade]
    exact congrArg (· ++ _) (World.calls_answer_findAll w l)
  · refine Program.elapsed_eq_callTime World.timed _ ?_
    change ∀ step ∈ w.trace clickAll, ∃ c, step.request = .call c
    rw [htrace, hmade]
    refine List.forall_mem_cons.mpr ⟨⟨_, rfl⟩, List.forall_mem_map.mpr fun c _ => ⟨_, rfl⟩⟩

/-- Five matches, one of them twice and one of them gone.  A button that does not react keeps the
session waiting, and the session is lost with the second click on the first match. -/
def crowded : World :=
  let button := fun key : String => (⟨key, 0, "", [], [], 0, false, 0⟩ : Scripted.Element)
  let browser := (Scripted.blank.addElement (button "id=a")).addElement (button "id=b")
  let slow : Scripted.Rule :=
    ⟨"click", some "id=b", 0, none, 40, false, none, some (.notInteractable "id=b")⟩
  let losing : Scripted.Rule :=
    ⟨"click", some "id=a", 1, none, 0, false, none, some (.session "gone")⟩
  ⟨.start { browser with
      matching := [("css=.row", ["id=a", "id=gone", "id=b", "id=a", "id=b"])]
      rules := [slow, losing] } none 0, .empty, []⟩

open PageRun in
/-- The last match is not clicked any more, and of the four clicks only the first one took
effect. -/
theorem click_all_clicks_each_match_crowded :
    let wait : WaitPolicy := ⟨500, 100, by decide⟩
    let clickAll : Task Handle RunError (Option (Chain Handle)) :=
      execute wait none (.clickAll "css" ".row")
    (∃ made : List (Click Handle), crowded.trace clickAll =
        ⟨.call (.findAll ⟨.css, ".row"⟩), .value (["id=a", "id=gone", "id=b", "id=a", "id=b"].map
          fun key => ⟨key, 0⟩)⟩ :: made.map Click.step ∧ made.length = 4) ∧
      (crowded.run clickAll).1 = .failed (.session "gone") ∧
      (crowded.run clickAll).2.site.browser.calls = ["click id=a"] ∧
      Program.elapsed World.answer (fun v => v.site.clock) clickAll crowded = 40 := by
  intro wait clickAll
  have hlocator : locator "css" ".row" = .ok ⟨.css, ".row"⟩ := by
    simp [locator, show By.ofName? "css" = some .css by decide +kernel]
  have hfound : (crowded.run (Task.call (.findAll ⟨.css, ".row"⟩))).1 =
      .value (["id=a", "id=gone", "id=b", "id=a", "id=b"].map fun key => ⟨key, 0⟩) := by
    decide +kernel
  obtain ⟨made, htrace, -⟩ := click_all_clicks_each_match wait none crowded hlocator hfound
    (by decide +kernel)
  refine ⟨⟨made, htrace, ?_⟩, by decide +kernel, by decide +kernel, by decide +kernel⟩
  have hlength : (crowded.trace clickAll).length = 5 := by decide +kernel
  rw [htrace] at hlength
  simpa using hlength

end BrowserSuite
