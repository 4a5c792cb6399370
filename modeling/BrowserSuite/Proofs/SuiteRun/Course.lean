import BrowserSuite.Proofs.Page.Requests
import BrowserSuite.Proofs.SuiteRun.Verdict

/-!
# The course of a suite run

Before each action a page looks whether the run has been cancelled; the action is started
exactly if it has not been.  Nothing else looks at the cancellation, so the number of
actions that were started on a path can be read off its steps (`started`), and the actions
of a suite are started in the order in which they stand in its pages (`Suite.schedule`).

`outcome_of_ends` says that this number and the ending of the last action that was started
decide the outcome of a suite run, whoever answers its requests: an action that failed or
panicked fails the suite with its own reason; if there is no action left, the suite has
passed; in all other cases the run was cancelled.
-/

namespace BrowserSuite

/-! ## Actions that are started -/

namespace Task

variable {E : Type} {steps first rest : List (Step E)}

/-- A look at the cancellation after which an action is started. -/
def Step.starts (s : Step E) : Bool :=
  match s with
  | ⟨.isCancelled, false⟩ => true
  | _ => false

/-- How many actions are started on a path. -/
def started (steps : List (Step E)) : Nat := steps.countP Step.starts

@[simp] theorem started_nil : started ([] : List (Step E)) = 0 := rfl

@[simp] theorem started_append : started (first ++ rest) = started first + started rest :=
  List.countP_append

@[simp] theorem started_cons (s : Step E) :
    started (s :: rest) = started rest + if s.starts then 1 else 0 :=
  List.countP_cons

theorem started_eq_zero (h : ∀ s ∈ steps, s.request ≠ .isCancelled) : started steps = 0 := by
  refine List.countP_eq_zero.mpr fun s hs hstarts => h s hs ?_
  unfold Step.starts at hstarts
  split at hstarts
  · rfl
  · cases hstarts

end Task

/-- Why a suite fails in which something ended in this way, if it does. -/
def Ending.fault? {α : Type} : Ending RunError α → Option String
  | value _ => none
  | failed e => some e.message
  | panicked p => some s!"panicked: {p.message}"

/-- A part that did not end with a value ended the whole as it ended itself. -/
inductive Ending.Stops {α β : Type} : Ending RunError α → Ending RunError β → Prop
  | failed (e : RunError) : Stops (.failed e) (.failed e)
  | panicked (p : Panic) : Stops (.panicked p) (.panicked p)

theorem Ending.Stops.exists_fault {α β : Type} {y : Ending RunError α} {x : Ending RunError β}
    (h : y.Stops x) : ∃ reason, y.fault? = some reason ∧ x.fault? = some reason := by
  cases h <;> exact ⟨_, rfl, rfl⟩

/-- The actions of a suite in the order in which they are started, with their pages. -/
def Suite.schedule (s : Suite) : List (Page × Action) :=
  s.pages.flatMap fun page => page.actions.map (page, ·)

namespace PageRun

variable {E : Type} {settings : PageSettings} {wait : WaitPolicy} {chain chain' : Option (Chain E)}
  {action : Action} {steps : List (Task.Step E)}

theorem started_carryOut {x : Ending RunError (Option (Chain E))}
    (h : (carryOut wait chain action).Ends steps x) : Task.started steps = 0 :=
  Task.started_eq_zero ((part_carryOut wait chain action).asks steps x h)

/-- With all that is done for it and after it, it is one action that is started. -/
theorem started_cons_carryOut {body pause : List (Task.Step E)}
    {x : Ending RunError (Option (Chain E))} (h : (carryOut wait chain action).Ends body x)
    (hpause : Task.started pause = 0) :
    Task.started (⟨.isCancelled, false⟩ :: (body ++ pause) : List (Task.Step E)) = 1 := by
  simp [Task.Step.starts, started_carryOut h, hpause]

/-- An action of a cancelled run fails, and any other one is started. -/
theorem runAction_cases {x : Ending RunError (Option (Chain E))}
    (h : (runAction wait chain action).Ends steps x) :
    (steps = [⟨.isCancelled, true⟩] ∧ x = .failed .cancelled) ∨
      ∃ body, steps = ⟨.isCancelled, false⟩ :: body ∧ (carryOut wait chain action).Ends body x := by
  obtain ⟨cancelled, rest, rfl, hrest⟩ := Program.leads_ask_done_iff.mp h
  cases cancelled with
  | true =>
      obtain ⟨rfl, rfl⟩ := Task.ends_ended_iff.mp hrest
      exact .inl ⟨rfl, rfl⟩
  | false => exact .inr ⟨rest, rfl, hrest⟩

/-- The delays after an action start nothing and cannot fail. -/
theorem settle_ends {left : Nat} {x : Ending RunError Unit}
    (h : (settle settings left : Task E RunError Unit).Ends steps x) :
    x = .value () ∧ Task.started steps = 0 := by
  refine ⟨?_, Task.started_eq_zero ((part_settle settings left).asks steps x h)⟩
  obtain ⟨_, rest, rfl, hrest⟩ := Program.leads_ask_done_iff.mp h
  change Task.Ends (if left = 1 then Task.sleep settings.pageDelay else pure ()) rest x at hrest
  split at hrest
  · obtain ⟨_, -, hx⟩ := Task.ends_ask_value hrest
    exact hx
  · exact (Task.ends_ended_iff.mp hrest).2

/-- The paths of a page of which an action is left: the run was cancelled before it, it stopped
the page, or the page goes on after it. -/
theorem runActions_cons_cases {left : List Action} {x : Ending RunError Unit}
    (h : (runActions settings chain (action :: left)).Ends steps x) :
    (steps = [⟨.isCancelled, true⟩] ∧ x = .failed .cancelled) ∨
      (∃ body y, steps = ⟨.isCancelled, false⟩ :: body ∧
        (carryOut settings.wait chain action).Ends body y ∧ y.Stops x) ∨
      ∃ body pause more chain', steps = (⟨.isCancelled, false⟩ :: (body ++ pause)) ++ more ∧
        (carryOut settings.wait chain action).Ends body (.value chain') ∧
        Task.started pause = 0 ∧
        Program.Leads (runActions settings chain (action :: left))
          (⟨.isCancelled, false⟩ :: (body ++ pause)) (runActions settings chain' left) ∧
        (runActions settings chain' left).Ends more x := by
  rcases Task.ends_bind_cases h with
    ⟨first, tail, chain', rfl, haction, htail⟩ | ⟨e, rfl, haction⟩ | ⟨p, rfl, haction⟩
  · rcases runAction_cases haction with ⟨-, hvalue⟩ | ⟨body, rfl, hbody⟩
    · cases hvalue
    · rcases Task.ends_bind_cases htail with ⟨pause, more, u, rfl, hpause, hmore⟩ | ⟨e, -, hfail⟩ |
        ⟨p, -, hpanic⟩
      · have hfirst : Program.Leads (runActions settings chain (action :: left))
            (⟨.isCancelled, false⟩ :: body)
            (Task.bind (settle settings left.length) fun _ => runActions settings chain' left) :=
          haction.leads_bind _
        have hsecond : Program.Leads
            (Task.bind (settle settings left.length) fun _ => runActions settings chain' left) pause
            (runActions settings chain' left) := hpause.leads_bind _
        exact .inr (.inr ⟨body, pause, more, chain', by simp, hbody, (settle_ends hpause).2,
          hfirst.trans hsecond, hmore⟩)
      · cases (settle_ends hfail).1
      · cases (settle_ends hpanic).1
  · rcases runAction_cases haction with ⟨hsteps, he⟩ | ⟨body, hsteps, hbody⟩
    · cases he
      exact .inl ⟨hsteps, rfl⟩
    · exact .inr (.inl ⟨body, _, hsteps, hbody, .failed e⟩)
  · rcases runAction_cases haction with ⟨-, hp⟩ | ⟨body, hsteps, hbody⟩
    · cases hp
    · exact .inr (.inl ⟨body, _, hsteps, hbody, .panicked p⟩)

end PageRun

/-! ## What is left of a suite run -/

namespace SuiteRun

variable {E : Type}

/-- What is left of a suite run at some action of a page: the other actions, and what comes
after the page. -/
def remaining (settings : PageSettings) (suite : Suite) (start : Nat) (done : List PageRecord)
    (page : Page) (rest : List Page) (chain : Option (Chain E)) (actions : List Action) :
    Task E Empty SuiteRun := do
  match failure? (← (PageRun.runActions settings chain actions).ending) with
  | none => runPages settings suite start (done ++ [⟨page.name, .completed⟩]) rest
  | some (reason, fatal) => failAt suite start done page rest reason fatal

/-- The last action that was started on a path of a suite run, if there is one, with its page
and with how it ended. -/
inductive LastAction (settings : PageSettings) (suite : Suite) (steps : List (Task.Step E)) :
    Option (Page × Action × Ending RunError (Option (Chain E))) → Prop
  | none (h : Task.started steps = 0) : LastAction settings suite steps none
  | some {before body after : List (Task.Step E)} {start : Nat} {done : List PageRecord}
      {page : Page} {rest : List Page} {chain : Option (Chain E)} {action : Action}
      {left : List Action} {x : Ending RunError (Option (Chain E))}
      (hsteps : steps = before ++ ⟨.isCancelled, false⟩ :: (body ++ after))
      (hlast : Task.started after = 0)
      (hplace : suite.schedule[Task.started before]? = some (page, action))
      (hbefore : Program.Leads (suite.run settings) before
        (remaining settings suite start done page rest chain (action :: left)))
      (hbody : (PageRun.carryOut settings.wait chain action).Ends body x) :
      LastAction settings suite steps (some (page, action, x))

variable {settings : PageSettings} {suite : Suite} {start : Nat} {done : List PageRecord}
  {page : Page} {rest : List Page} {chain : Option (Chain E)} {action : Action}
  {left : List Action} {steps more : List (Task.Step E)} {run : SuiteRun}
  {last : Option (Page × Action × Ending RunError (Option (Chain E)))}

/-- As long as no further action is started, the last one stays the last one. -/
theorem LastAction.append (h : LastAction settings suite steps last)
    (hmore : Task.started more = 0) : LastAction settings suite (steps ++ more) last := by
  cases h with
  | none h => exact .none (by simp [h, hmore])
  | @some before body after _ _ _ _ _ _ _ _ hsteps hlast hplace hbefore hbody =>
      have hlonger : steps ++ more =
          before ++ ⟨.isCancelled, false⟩ :: (body ++ (after ++ more)) := by simp [hsteps]
      exact .some hlonger (by simp [hlast, hmore]) hplace hbefore hbody

end SuiteRun

/-- The outcome of a suite of which some actions have been started, by how the last one of
them ended. -/
def Suite.outcomeAfter {E : Type} (suite : Suite) (started : Nat)
    (last : Option (Page × Action × Ending RunError (Option (Chain E)))) : Outcome :=
  match last.bind fun (page, _, x) => x.fault?.map (page.name, ·) with
  | some (page, reason) => .failed (some page) reason
  | none =>
    match suite.schedule[started]? with
    | some (page, _) => .failed (some page.name) RunError.cancelled.message
    | none => .passed

/-! ## The outcome -/

namespace SuiteRun

variable {E : Type} {settings : PageSettings} {suite : Suite} {start : Nat}
  {done : List PageRecord} {page : Page} {rest : List Page} {chain : Option (Chain E)}
  {steps before : List (Task.Step E)} {run : SuiteRun} {n : Nat}
  {last : Option (Page × Action × Ending RunError (Option (Chain E)))}

/-- The last action that was started, if there is one, has not failed. -/
def Faultless (last : Option (Page × Action × Ending RunError (Option (Chain E)))) : Prop :=
  ∀ page action x, last = some (page, action, x) → x.fault? = none

theorem outcomeAfter_of_fault {action : Action} {x : Ending RunError (Option (Chain E))}
    {reason : String} (h : x.fault? = some reason) :
    suite.outcomeAfter n (some (page, action, x)) = .failed (some page.name) reason := by
  simp [Suite.outcomeAfter, h]

theorem outcomeAfter_of_faultless (h : Faultless last) :
    suite.outcomeAfter n last =
      match suite.schedule[n]? with
      | some (page, _) => .failed (some page.name) RunError.cancelled.message
      | none => .passed := by
  have hnone : last.bind (fun (page, _, x) => x.fault?.map (page.name, ·)) = none := by
    rw [Option.bind_eq_none_iff]
    rintro ⟨page, action, x⟩ hlast
    simp [h page action x hlast]
  rw [Suite.outcomeAfter, hnone]

theorem failure?_of_fault? {x : Ending RunError Unit} {reason : String}
    (h : x.fault? = some reason) : ∃ fatal, failure? x = some (reason, fatal) := by
  cases x <;> cases h
  · exact ⟨_, rfl⟩
  · exact ⟨_, rfl⟩

theorem asks_announce {Q : Effect E → Prop} (hread : Q .readStore)
    (hlog : ∀ message, Q (.log message)) (page : Page) :
    Task.Asks Q (announce page : Task E Empty Unit) := by
  refine .ask hread fun store => ?_
  change Task.Asks _ (if store.flag "debug" then Task.log page.name else pure ())
  split
  · exact .ask (hlog page.name) fun _ => .ended _
  · exact .pure ()

theorem started_announce {x : Ending Empty Unit}
    (h : (announce page : Task E Empty Unit).Ends steps x) : Task.started steps = 0 := by
  have hasks : Task.Asks (· ≠ .isCancelled) (announce page : Task E Empty Unit) :=
    asks_announce (by simp) (by simp) page
  exact Task.started_eq_zero (hasks _ _ h)

theorem pass_ends (h : (pass suite start done : Task E Empty SuiteRun).Ends steps (.value run)) :
    run.result.outcome = .passed ∧ Task.started steps = 0 := by
  obtain ⟨_, _, _, rfl, hlog, h⟩ := Task.ends_bind_value_iff.mp h
  obtain ⟨_, _, now, rfl, hnow, h⟩ := Task.ends_bind_value_iff.mp h
  obtain ⟨rfl, rfl⟩ := Task.ends_pure_value_iff.mp h
  rw [Task.steps_of_ends_log hlog, Task.steps_of_ends_now hnow]
  exact ⟨rfl, rfl⟩

theorem failAt_ends {reason : String} {fatal : Option RunError}
    (h : (failAt suite start done page rest reason fatal : Task E Empty SuiteRun).Ends steps
      (.value run)) :
    run.result.outcome = .failed (some page.name) reason ∧ Task.started steps = 0 := by
  have hasks : Task.Asks (· ≠ .isCancelled)
      (failAt suite start done page rest reason fatal : Task E Empty SuiteRun) := by
    refine .ask (by simp) fun _ => .ask (by simp) fun _ => .ask (by simp) fun _ => ?_
    exact .ask (r := .now) (by simp) fun _ => .ended _
  exact ⟨(failAt_of_ends h).2.1, Task.started_eq_zero (hasks _ _ h)⟩

/-- A suite run at a moment at which no action has failed: these actions are left to be
started. -/
structure Standing (settings : PageSettings) (suite : Suite) (before : List (Task.Step E))
    (left : Task E Empty SuiteRun) (todo : List (Page × Action)) : Prop where
  leads : Program.Leads (suite.run settings) before left
  todo : suite.schedule.drop (Task.started before) = todo
  last : ∃ last, LastAction settings suite before last ∧ Faultless (E := E) last

/-- The outcome of a suite run that ends on this path. -/
def Decides (settings : PageSettings) (suite : Suite) (steps : List (Task.Step E))
    (run : SuiteRun) : Prop :=
  ∃ last, LastAction settings suite steps last ∧
    run.result.outcome = suite.outcomeAfter (Task.started steps) last

/-- A suite in which all actions have been started passes. -/
theorem Standing.pass (hstanding : Standing settings suite before (pass suite start done) [])
    (h : (SuiteRun.pass suite start done : Task E Empty SuiteRun).Ends steps (.value run)) :
    Decides settings suite (before ++ steps) run := by
  obtain ⟨houtcome, hstarted⟩ := pass_ends h
  obtain ⟨last, hlast, hfaultless⟩ := hstanding.last
  refine ⟨last, hlast.append hstarted, ?_⟩
  have hnone : suite.schedule[Task.started before]? = none := by
    rw [← List.head?_drop, hstanding.todo]
    rfl
  rw [outcomeAfter_of_faultless hfaultless, Task.started_append, hstarted, Nat.add_zero, hnone]
  exact houtcome

/-- The next action of a page: `hleft` is about what is left after it. -/
theorem Standing.action {action : Action} {left : List Action} {todo : List (Page × Action)}
    (hstanding : Standing settings suite before
      (remaining settings suite start done page rest chain (action :: left))
      ((page, action) :: todo))
    (hleft : ∀ {chain : Option (Chain E)} {before steps : List (Task.Step E)},
      Standing settings suite before
          (remaining settings suite start done page rest chain left) todo →
        (remaining settings suite start done page rest chain left).Ends steps (.value run) →
        Decides settings suite (before ++ steps) run)
    (h : (remaining settings suite start done page rest chain (action :: left)).Ends steps
      (.value run)) :
    Decides settings suite (before ++ steps) run := by
  have hplace : suite.schedule[Task.started before]? = some (page, action) := by
    rw [← List.head?_drop, hstanding.todo]
    rfl
  obtain ⟨first, verdict, x, rfl, hruns, hcaught, hverdict⟩ :=
    Task.ends_ending_bind_value_iff.mp h
  rcases PageRun.runActions_cons_cases hruns with
    ⟨rfl, rfl⟩ | ⟨body, y, rfl, hbody, hstops⟩ |
      ⟨body, pause, more, chain', rfl, hbody, hpause, hleads, hmore⟩
  · -- the run was cancelled before the action
    obtain ⟨houtcome, hstarted⟩ := failAt_ends hverdict
    obtain ⟨last, hlast, hfaultless⟩ := hstanding.last
    have hnone : Task.started ([⟨.isCancelled, true⟩] ++ verdict : List (Task.Step E)) = 0 := by
      simp [hstarted, Task.Step.starts]
    refine ⟨last, hlast.append hnone, ?_⟩
    rw [outcomeAfter_of_faultless hfaultless, Task.started_append, hnone, Nat.add_zero, hplace]
    exact houtcome
  · -- the action ended in a fault
    obtain ⟨reason, hy, hx⟩ := hstops.exists_fault
    obtain ⟨fatal, hfailure⟩ := failure?_of_fault? hx
    rw [hfailure] at hverdict
    obtain ⟨houtcome, hstarted⟩ := failAt_ends hverdict
    refine ⟨some (page, action, y), .some rfl hstarted hplace hstanding.leads hbody, ?_⟩
    rw [outcomeAfter_of_fault hy]
    exact houtcome
  · -- the page goes on after the action
    have hends : (remaining settings suite start done page rest chain' left).Ends (more ++ verdict)
        (.value run) :=
      Task.ends_ending_bind_value_iff.mpr ⟨more, verdict, x, rfl, hmore, hcaught, hverdict⟩
    have hnext : Standing settings suite (before ++ ⟨.isCancelled, false⟩ :: (body ++ pause))
        (SuiteRun.remaining settings suite start done page rest chain' left) todo := {
      leads := hstanding.leads.trans ((hleads.bind _).bind _)
      todo := by
        rw [Task.started_append, PageRun.started_cons_carryOut hbody hpause, ← List.tail_drop,
          hstanding.todo]
        rfl
      last := by
        refine ⟨some (page, action, .value chain'),
          .some rfl hpause hplace hstanding.leads hbody, ?_⟩
        rintro _ _ _ ⟨⟩
        rfl }
    simpa using hleft hnext hends

/-- The other actions of a page: `hpages` is about the pages after it. -/
theorem Standing.remaining {actions : List Action} {todo : List (Page × Action)}
    (hpages : ∀ {done : List PageRecord} {before steps : List (Task.Step E)},
      Standing settings suite before (runPages settings suite start done rest) todo →
        (runPages settings suite start done rest).Ends steps (.value run) →
        Decides settings suite (before ++ steps) run)
    (hstanding : Standing settings suite before
      (SuiteRun.remaining settings suite start done page rest chain actions)
      (actions.map (page, ·) ++ todo))
    (h : (SuiteRun.remaining settings suite start done page rest chain actions).Ends steps
      (.value run)) :
    Decides settings suite (before ++ steps) run := by
  induction actions generalizing chain before steps with
  | nil => exact hpages hstanding h
  | cons action left ih => exact hstanding.action ih h

/-- An answer that starts nothing leaves a suite run where it was. -/
theorem Standing.advance {first : List (Task.Step E)} {p q : Task E Empty SuiteRun}
    {todo : List (Page × Action)} (hstanding : Standing settings suite before p todo)
    (hleads : Program.Leads p first q) (hfirst : Task.started first = 0) :
    Standing settings suite (before ++ first) q todo where
  leads := hstanding.leads.trans hleads
  todo := by rw [Task.started_append, hfirst, Nat.add_zero, hstanding.todo]
  last := by
    obtain ⟨last, hlast, hfaultless⟩ := hstanding.last
    exact ⟨last, hlast.append hfirst, hfaultless⟩

/-- The pages that are left. -/
theorem Standing.pages {pages : List Page}
    (hstanding : Standing settings suite before (runPages settings suite start done pages)
      (pages.flatMap fun page => page.actions.map (page, ·)))
    (h : (runPages settings suite start done pages).Ends steps (.value run)) :
    Decides settings suite (before ++ steps) run := by
  induction pages generalizing done before steps with
  | nil => exact hstanding.pass h
  | cons page rest ih =>
      obtain ⟨first, tail, u, rfl, hannounce, htail⟩ := Task.ends_bind_value_iff.mp h
      have hpage := hstanding.advance
        (q := SuiteRun.remaining settings suite start done page rest none page.actions)
        (hannounce.leads_bind _) (started_announce hannounce)
      rw [← List.append_assoc]
      exact hpage.remaining ih htail

/-- A suite run that ends with a result is decided by how many actions were started and by
how the last of them ended. -/
theorem outcome_of_ends (h : (suite.run settings).Ends steps (.value run)) :
    ∃ last, LastAction settings suite steps last ∧
      run.result.outcome = suite.outcomeAfter (Task.started steps) last := by
  obtain ⟨first, rest, start, rfl, hnow, hrest⟩ := Task.ends_bind_value_iff.mp h
  have hfirst : Task.started first = 0 := by
    rw [Task.steps_of_ends_now hnow]
    rfl
  have hstanding : Standing settings suite first (runPages settings suite start [] suite.pages)
      suite.schedule := by
    refine ⟨hnow.leads_bind _, by rw [hfirst, List.drop_zero], none, .none hfirst, ?_⟩
    rintro _ _ _ ⟨⟩
  exact hstanding.pages hrest

end SuiteRun

end BrowserSuite
