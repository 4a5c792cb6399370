import BrowserSuite.Engine.Page
import BrowserSuite.Proofs.Retry.Wait

/-!
# Pages that injected failures do not change

Every instruction other than clicking all elements and searching frames is robust:
its polled calls are all made under a wait, and what it writes it writes after the last
of them (`robust_execute`).  So are the actions of a page that uses no others
(`robust_runActions`).  `run_page_of_injects` reads this as a statement about one
browser with and without rules that inject failures.
-/

namespace BrowserSuite

open Scripted (isPolled)

namespace Instruction

/-- Whether an instruction makes all its polled calls under a wait. -/
def isPatient : Instruction → Bool
  | clickAll _ _ | findFrame _ _ => false
  | _ => true

/-- An instruction that is not patient is one of the two commands. -/
theorem isPatient_of_ofParams? {c : Command} {params : List String} {i : Instruction}
    (h : ofParams? c params = some i) (hall : c ≠ .clickAll) (hframe : c ≠ .findFrame) :
    i.isPatient = true := by
  unfold ofParams? at h
  split at h <;> cases h <;> first | rfl | contradiction

end Instruction

namespace PageRun

variable {wait : WaitPolicy} {bound : Nat}

theorem robust_orStop {α : Type} (e : Except RunError α) :
    Robust bound (orStop e : Task Handle RunError α) := by
  cases e with
  | ok a => exact .pure a
  | error e => exact .fail e

/-- A call that is not polled ends the page if it fails. -/
theorem robust_callOrStop {c : Call Handle} (hc : isPolled c = false) :
    Robust bound (Task.callOrStop c) :=
  (Robust.call hc).mapError _

theorem robust_variableText (key : String) :
    Robust bound (variableText key : Task Handle RunError String) := by
  refine Robust.readStore.bind fun store => ?_
  cases store.text? key with
  | some text => exact .pure text
  | none => exact .fail _

theorem robust_started (chain : Option (Chain Handle)) : Robust bound (started chain) := by
  cases chain with
  | some chain => exact .pure chain
  | none => exact .fail _

theorem robust_perform (chain : Chain Handle) :
    Robust bound (chain.perform.mapError RunError.ofBrowser) := by
  rw [Chain.perform_eq]
  split
  · exact .mapError _ (.pure ())
  · exact .mapError _ (.call rfl)

theorem robust_setBase (url : String) : Robust bound (setBase url : Task Handle RunError Unit) := by
  unfold setBase
  split
  · exact (robust_variableText _).bind fun tier => .setVariable _ _
  · exact .setVariable _ _

theorem robust_pauseFor (text : String) :
    Robust bound (pauseFor text : Task Handle RunError Unit) := by
  refine (robust_orStop _).bind fun ms => ?_
  cases Clock.pauseOf ms with
  | some pause => exact .sleep pause
  | none => exact .ended _

section Waits

variable (hpoll : 0 < wait.poll) (hbound : bound ≤ wait.retries)
include hpoll hbound

theorem robust_awaitElement (kind target : String) :
    Robust bound (awaitElement wait kind target : Task Handle RunError Handle) :=
  (robust_orStop _).bind fun _ => .wait_call hpoll hbound rfl _

theorem robust_awaitClick (kind target : String) :
    Robust bound (awaitClick wait kind target : Task Handle RunError Handle) :=
  (robust_awaitElement hpoll hbound kind target).bind fun element =>
    (Robust.wait_call hpoll hbound (c := .click element) rfl _).bind
      fun _ => .pure element

theorem robust_clearElement (kind target : String) :
    Robust bound (clearElement wait kind target : Task Handle RunError Unit) :=
  (robust_awaitElement hpoll hbound kind target).bind fun _ =>
    robust_callOrStop rfl

theorem robust_typeInto (kind target text : String) :
    Robust bound (typeInto wait kind target text : Task Handle RunError Unit) :=
  (robust_awaitClick hpoll hbound kind target).bind fun _ =>
    robust_callOrStop rfl

/-- A patient instruction is robust. -/
theorem robust_execute (chain : Option (Chain Handle)) {i : Instruction}
    (hi : i.isPatient = true) : Robust bound (execute wait chain i) := by
  have hcall : ∀ {c : Call Handle}, isPolled c = false →
      Robust bound (Task.callOrStop c >>= fun _ => pure chain) :=
    fun hc => (robust_callOrStop hc).bind fun _ => .pure chain
  -- each instruction is a sequence of parts that are known to be robust
  cases i with
  | gestureNew => exact .pure _
  | gestureMove kind target =>
      exact (robust_awaitElement hpoll hbound kind target).bind fun _ =>
        (robust_started chain).bind fun _ => .pure _
  | gestureClick => exact (robust_started chain).bind fun _ => .pure _
  | gestureKeys names =>
      exact (robust_orStop _).bind fun _ => (robust_started chain).bind fun _ => .pure _
  | gesturePerform =>
      exact (robust_started chain).bind fun started =>
        (robust_perform started).bind fun _ => .pure _
  | clear kind target =>
      exact (robust_clearElement hpoll hbound kind target).bind fun _ => .pure chain
  | clearType kind target text =>
      exact (robust_clearElement hpoll hbound kind target).bind fun _ =>
        (robust_typeInto hpoll hbound kind target text).bind fun _ => .pure chain
  | click kind target =>
      exact (robust_awaitClick hpoll hbound kind target).bind fun _ => .pure chain
  | keys kind target names =>
      exact (robust_orStop _).bind fun codes =>
        (robust_typeInto hpoll hbound kind target codes).bind fun _ => .pure chain
  | selectByText kind target label =>
      exact (robust_awaitElement hpoll hbound kind target).bind fun element =>
        (Robust.wait_call hpoll hbound (c := .selectByText element label)
          rfl _).bind fun _ => .pure chain
  | selectByValue kind target value =>
      exact (robust_awaitElement hpoll hbound kind target).bind fun element =>
        (Robust.wait_call hpoll hbound (c := .selectByValue element value)
          rfl _).bind fun _ => .pure chain
  | typeText kind target text =>
      exact (robust_typeInto hpoll hbound kind target text).bind fun _ => .pure chain
  | typeVariable kind target key =>
      exact (robust_variableText key).bind fun text =>
        (robust_typeInto hpoll hbound kind target text).bind fun _ => .pure chain
  | baseUrl url => exact (robust_setBase url).bind fun _ => .pure chain
  | openPage path =>
      exact (robust_variableText "base").bind fun _ => hcall rfl
  | switchToDefault => exact hcall rfl
  | switchToFrame frame =>
      exact (Robust.wait_call hpoll hbound (c := .switchToFrame (frameTarget frame))
        rfl _).bind fun _ => .pure chain
  | setWindowSize width height =>
      exact (robust_orStop _).bind fun _ => (robust_orStop _).bind fun _ =>
        hcall rfl
  | setVariable key value => exact (Robust.setVariable _ _).bind fun _ => .pure chain
  | randomSsn key =>
      exact Robust.draw.bind fun _ => (Robust.setVariable _ _).bind fun _ => .pure chain
  | storeAttribute kind target name key =>
      exact (robust_awaitElement hpoll hbound kind target).bind fun element =>
        (robust_callOrStop (c := .readAttribute element name) rfl).bind
          fun _ => (Robust.setVariable _ _).bind fun _ => .pure chain
  | storeText kind target key =>
      exact (robust_awaitElement hpoll hbound kind target).bind fun element =>
        (robust_callOrStop (c := .readText element) rfl).bind
          fun _ => (Robust.setVariable _ _).bind fun _ => .pure chain
  | log message => exact (Robust.log _).bind fun _ => .pure chain
  | logVariable key =>
      exact (robust_variableText key).bind fun _ => (Robust.log _).bind fun _ => .pure chain
  | delay ms => exact (robust_pauseFor ms).bind fun _ => .pure chain
  | verifyText kind target expected =>
      refine (robust_awaitElement hpoll hbound kind target).bind fun element =>
        (robust_callOrStop (c := .readText element) rfl).bind fun text => ?_
      cases Text.contains text expected with
      | true => exact .pure chain
      | false => exact .fail _
  | clickAll | findFrame => cases hi

end Waits

/-! ## Pages -/

theorem robust_announce (action : Action) :
    Robust bound (announce action : Task Handle RunError Unit) := by
  refine Robust.readStore.bind fun store => ?_
  cases store.flag "debug" with
  | true => exact .log _
  | false => exact .pure ()

theorem robust_settle (settings : PageSettings) (left : Nat) :
    Robust bound (settle settings left : Task Handle RunError Unit) := by
  refine (Robust.sleep _).bind fun _ => ?_
  split
  · exact .sleep _
  · exact .pure ()

/-- An action that is neither a click on all elements nor a search of frames. -/
def isPatient (action : Action) : Prop :=
  action.command? ≠ some .clickAll ∧ action.command? ≠ some .findFrame

instance : DecidablePred isPatient :=
  fun _ => inferInstanceAs (Decidable (_ ∧ _))

theorem isPatient_instruction {action : Action} (h : isPatient action) {i : Instruction}
    (hi : action.instruction = .ok i) : i.isPatient = true := by
  unfold Action.instruction at hi
  split at hi
  · cases hi
  · rename_i c hcommand
    split at hi
    · rename_i hparams
      cases hi
      refine Instruction.isPatient_of_ofParams? hparams ?_ ?_
      · rintro rfl
        exact h.1 hcommand
      · rintro rfl
        exact h.2 hcommand
    · cases hi

theorem robust_runAction (hpoll : 0 < wait.poll) (hbound : bound ≤ wait.retries)
    (chain : Option (Chain Handle)) {action : Action} (h : isPatient action) :
    Robust bound (runAction wait chain action) := by
  refine Robust.isCancelled.bind fun cancelled => ?_
  cases cancelled with
  | true => exact .fail _
  | false =>
      refine (robust_announce action).bind fun _ => ?_
      cases hi : action.instruction with
      | error e => exact .fail e
      | ok i => exact robust_execute hpoll hbound chain (isPatient_instruction h hi)

/-- A page of such actions is robust. -/
theorem robust_runActions {settings : PageSettings} (hpoll : 0 < settings.wait.poll)
    (hbound : bound ≤ settings.wait.retries) (chain : Option (Chain Handle))
    {actions : List Action} (h : ∀ action ∈ actions, isPatient action) :
    Robust bound (runActions settings chain actions) := by
  induction actions generalizing chain with
  | nil => exact .pure ()
  | cons action rest ih =>
      obtain ⟨haction, hrest⟩ := List.forall_mem_cons.mp h
      exact (robust_runAction hpoll hbound chain haction).bind fun chain =>
        (robust_settle settings rest.length).bind fun _ => ih chain hrest

end PageRun

/-- A world whose browser disturbs calls as some rules tell. -/
def World.disturbed (w : World) (rules : List Scripted.Rule) : World :=
  { w with site := { w.site with browser := { w.site.browser with rules := rules } } }

/-- On a browser with prompt elements, a page that neither clicks all elements nor
searches frames is not changed by rules that let as many of its polled calls fail as a
wait makes further attempts: it ends in the same way and leaves the same store and log,
the same calls and the same frame. -/
theorem run_page_of_injects (settings : PageSettings) (page : Page) (w : World)
    (rules : List Scripted.Rule) (hpoll : 0 < settings.wait.poll)
    (hpage : ∀ action ∈ page.actions, PageRun.isPatient action)
    (hplanned : w.site.cancelAt = none) (hrules : w.site.browser.rules = [])
    (hprompt : w.site.browser.Prompt) (hinjects : ∀ r ∈ rules, r.Injects)
    (hbudget : Scripted.budget rules ≤ settings.wait.retries) :
    let calm := w.run (page.run settings)
    let disturbed := (w.disturbed rules).run (page.run settings)
    disturbed.1 = calm.1 ∧ disturbed.2.store = calm.2.store ∧ disturbed.2.log = calm.2.log ∧
      disturbed.2.site.browser.calls = calm.2.site.browser.calls ∧
      disturbed.2.site.browser.context = calm.2.site.browser.context := by
  intro calm disturbed
  have hcalm : w.Calm settings.wait.retries :=
    ⟨hplanned, hprompt, by simp [hrules], by simp [World.budget, hrules]⟩
  have hdisturbed : (w.disturbed rules).Calm settings.wait.retries :=
    ⟨hplanned, hprompt, hinjects, hbudget⟩
  obtain ⟨hreply, halike⟩ := PageRun.robust_runActions hpoll (Nat.le_refl _) none hpage
    (w.disturbed rules) w ⟨hdisturbed, hcalm, rfl⟩
  have hview : disturbed.2.view = calm.2.view := halike.view_eq
  have hstore := congrArg World.store hview
  have hlog := congrArg World.log hview
  have hcalls := congrArg (fun v : World => v.site.browser.calls) hview
  have hcontext := congrArg (fun v : World => v.site.browser.context) hview
  exact ⟨hreply, hstore, hlog, hcalls, hcontext⟩

/-- A page with a button, on which nothing disturbs a click. -/
def undisturbed : World :=
  ⟨.start (Scripted.blank.addElement ⟨"id=ok", 0, "", [], [], 0, false, 0⟩) none 0, .empty, []⟩

/-- The button is missed three times, and then two clicks on it are intercepted. -/
def mishaps : List Scripted.Rule :=
  [⟨"find", none, 0, some 3, 0, false, none, some (.noSuchElement "id=ok")⟩,
    ⟨"click", some "id=ok", 0, some 2, 0, false, none, some (.notInteractable "id=ok")⟩]

/-- A page that clicks the button. -/
def clicking : Page := ⟨"p", [⟨"click", ["id", "ok"], 1⟩]⟩

/-- The button is found at the fourth attempt and clicked at the third. -/
theorem run_page_of_injects_mishaps :
    let settings : PageSettings := ⟨0, 0, ⟨500, 100, by decide⟩⟩
    ((undisturbed.disturbed mishaps).run (clicking.run settings)).1 = .value () ∧
      ((undisturbed.disturbed mishaps).run (clicking.run settings)).2.site.browser.calls =
        ["click id=ok"] := by
  intro settings
  have hinjects : ∀ r ∈ mishaps, r.Injects := by
    intro r hr
    simp only [mishaps, List.mem_cons, List.not_mem_nil, or_false] at hr
    rcases hr with rfl | rfl
    · exact ⟨by decide, rfl, rfl, rfl, rfl, _, rfl, rfl⟩
    · exact ⟨by decide, rfl, rfl, rfl, rfl, _, rfl, rfl⟩
  obtain ⟨hreply, -, -, hcalls, -⟩ := run_page_of_injects settings clicking undisturbed
    mishaps (by decide) (by decide +kernel) rfl rfl (by decide) hinjects (by decide)
  rw [hreply, hcalls]
  decide +kernel

end BrowserSuite
