import BrowserSuite.Proofs.Page.Parameters
import BrowserSuite.Proofs.Page.Pauses
import BrowserSuite.Proofs.SuiteRun.Course
import BrowserSuite.Proofs.Wait.Course

/-!
# How a page can fail

When no call of the session panics, a page ends with a value or with an error, whatever its
parameters are, with one exception: a delay of `2 ^ 64` seconds or more is accepted and then
cannot be counted (`ends_panicked_iff`).

## Strategy

What an action can come to is known from its instruction alone, whoever answers its requests
(`failed_of_malformed`, `panics_iff_overlong`, `failed_of_no_switch`).  A path of a page to its
end is taken apart into the actions that were started on it: all of them but the last ended with
a value, and the last one, if it did not, ended the page as it ended itself
(`exists_of_lt_started`, `exists_stops`).
-/

namespace BrowserSuite

/-- The frame that a step has switched to. -/
def Task.Step.entered? {E : Type} (s : Task.Step E) : Option (FrameTarget E) :=
  match s with
  | ⟨.call (.switchToFrame target), .value ()⟩ => some target
  | _ => none

namespace WaitPolicy

variable {E α : Type} {p : WaitPolicy} {operation : Task E BrowserError α} {awaited : String}
  {deadline : Nat} {steps : List (Task.Step E)} {a : α}

/-! ## Waiting for a success -/

/-- After an attempt, a wait ends with its value or goes on to a value of a later one. -/
theorem ends_follow_value {later : Task E RunError α} {x : Ending BrowserError α}
    (h : (follow p awaited deadline later x).Ends steps (.value a)) :
    x = .value a ∨ ∃ more, later.Ends more (.value a) ∧ more ⊆ steps := by
  cases x with
  | value b =>
      cases (Task.ends_ended_iff.mp h).2
      exact .inl rfl
  | panicked q => cases (Task.ends_ended_iff.mp h).2
  | failed e =>
      by_cases htransient : e.isTransient = true
      · have hfollow : follow p awaited deadline later (.failed e) =
            Program.ask .now (pause p awaited deadline later) := if_pos htransient
        rw [hfollow] at h
        obtain ⟨now, rest, rfl, hrest⟩ := Program.leads_ask_done_iff.mp h
        change Task.Ends (pause p awaited deadline later now) rest _ at hrest
        unfold pause at hrest
        by_cases hdeadline : deadline ≤ now
        · rw [if_pos hdeadline] at hrest
          cases (Task.ends_ended_iff.mp hrest).2
        · rw [if_neg hdeadline] at hrest
          obtain ⟨_, more, rfl, hmore⟩ := Program.leads_ask_done_iff.mp hrest
          refine .inr ⟨more, hmore, fun s hs => ?_⟩
          simp [hs]
      · have hfollow : follow p awaited deadline later (.failed e) =
            Task.fail (RunError.ofBrowser e) := if_neg htransient
        rw [hfollow] at h
        cases (Task.ends_ended_iff.mp h).2

/-- A wait ends with the value of one of its attempts. -/
theorem exists_attempt_of_ends_attempts {fuel : Nat}
    (h : (p.attempts operation awaited deadline fuel).Ends steps (.value a)) :
    ∃ attempt, operation.Ends attempt (.value a) ∧ attempt ⊆ steps := by
  induction fuel generalizing steps with
  | zero => cases (Task.ends_ended_iff.mp h).2
  | succ fuel ih =>
      rw [attempts_succ] at h
      obtain ⟨first, rest, x, rfl, hfirst, hrest⟩ := Program.leads_bind_done_iff.mp h
      rcases ends_follow_value hrest with rfl | ⟨more, hmore, hrest⟩
      · exact ⟨first, hfirst, List.subset_append_left _ _⟩
      · obtain ⟨attempt, hattempt, hsteps⟩ := ih hmore
        refine ⟨attempt, hattempt, fun s hs => ?_⟩
        exact List.mem_append_right first (hrest (hsteps hs))

theorem mem_of_ends_wait {c : Call E} {a : c.Reply}
    (h : (p.wait (Task.call c) awaited).Ends steps (.value a)) :
    (⟨.call c, .value a⟩ : Task.Step E) ∈ steps := by
  obtain ⟨start, rest, rfl, hrest⟩ := Program.leads_ask_done_iff.mp h
  obtain ⟨attempt, hattempt, hsteps⟩ := exists_attempt_of_ends_attempts hrest
  obtain rfl := Task.ends_call_iff.mp hattempt
  exact List.mem_cons_of_mem _ (hsteps (List.mem_singleton_self _))

end WaitPolicy

namespace PageRun

variable {E : Type} {wait : WaitPolicy} {bad : BadParameter} {settings : PageSettings}
  {chain : Option (Chain E)} {steps : List (Task.Step E)}

/-! ## What an action can come to -/

theorem ends_announce {action : Action} {x : Ending RunError Unit}
    (h : (announce action : Task E RunError Unit).Ends steps x) : x = .value () := by
  obtain ⟨store, rest, rfl, hrest⟩ := Program.leads_ask_done_iff.mp h
  change Task.Ends (if store.flag "debug" = true then Task.log action.describe else pure ())
    rest x at hrest
  split at hrest
  · obtain ⟨_, -, hx⟩ := Task.ends_ask_value hrest
    exact hx
  · exact (Task.ends_ended_iff.mp hrest).2

/-- An action that is carried out ends as its instruction does. -/
theorem exists_execute_of_carryOut {action : Action} {i : Instruction}
    {y : Ending RunError (Option (Chain E))} (hi : action.instruction = .ok i)
    (h : (carryOut wait chain action).Ends steps y) :
    ∃ first rest, steps = first ++ rest ∧ (execute wait chain i).Ends rest y := by
  unfold carryOut at h
  rw [hi] at h
  rcases Task.ends_bind_cases h with ⟨first, rest, u, rfl, -, hrest⟩ | ⟨e, -, he⟩ | ⟨p, -, hp⟩
  · exact ⟨first, rest, rfl, hrest⟩
  · cases ends_announce he
  · cases ends_announce hp

section Action

variable {action : Action} {y : Ending RunError (Option (Chain E))}

theorem failed_of_malformed {i : Instruction} (hi : action.instruction = .ok i)
    (hbad : i.malformed? = some bad) (h : (carryOut wait chain action).Ends steps y) :
    ∃ e, y = .failed e ∧
      (e = .invalidParameter bad ∨
        ∃ key, i.typedVariable? = some key ∧ e = .unknownVariable key) := by
  obtain ⟨first, rest, rfl, hrest⟩ := exists_execute_of_carryOut hi h
  exact (rejects_execute wait chain hbad rest y hrest).2

/-- An action whose calls do not panic panics exactly if it is an overlong delay. -/
theorem panics_iff_overlong (h : (carryOut wait chain action).Ends steps y)
    (hcalls : ∀ s ∈ steps, s.panic? = none) :
    (∃ p, y = .panicked p) ↔
      ∃ text, action.instruction = .ok (.delay text) ∧ Overlong text := by
  constructor
  · rintro ⟨p, rfl⟩
    rcases (part_carryOut wait chain action).panicsByCall _ _ h with hown | ⟨s, hs, hp⟩
    · obtain ⟨i, hi, -, text, ms, rfl, hms, hlong⟩ := hown
      exact ⟨text, hi, overlong_iff.mpr ⟨ms, hms, hlong⟩⟩
    · cases (hcalls s hs).symm.trans hp
  · rintro ⟨text, hi, hlong⟩
    obtain ⟨ms, hms, hpause⟩ := overlong_iff.mp hlong
    obtain ⟨first, rest, rfl, hrest⟩ := exists_execute_of_carryOut hi h
    have hpanics : execute wait chain (.delay text) = Task.panicWith Clock.pauseTooLong := by
      simp only [execute, pauseFor, hms, orStop, pure_bind, hpause]
      rfl
    rw [hpanics] at hrest
    exact ⟨_, (Task.ends_ended_iff.mp hrest).2⟩

/-- A switch to a frame that never succeeds fails, unless a call panics. -/
theorem failed_of_no_switch {frame : String} (hi : action.instruction = .ok (.switchToFrame frame))
    (h : (carryOut wait chain action).Ends steps y) (hcalls : ∀ s ∈ steps, s.panic? = none)
    (hswitch : ∀ s ∈ steps, s.entered? ≠ some (frameTarget frame)) : ∃ e, y = .failed e := by
  cases y with
  | failed e => exact ⟨e, rfl⟩
  | panicked p =>
      obtain ⟨text, hdelay, -⟩ := (panics_iff_overlong h hcalls).mp ⟨p, rfl⟩
      cases hi.symm.trans hdelay
  | value c =>
      obtain ⟨first, rest, rfl, hrest⟩ := exists_execute_of_carryOut hi h
      obtain ⟨attempts, more, u, rfl, hwait, -⟩ := Task.ends_bind_value_iff.mp hrest
      have hmem := WaitPolicy.mem_of_ends_wait hwait
      exact absurd rfl (hswitch _ (List.mem_append_right first (List.mem_append_left more hmem)))

end Action

/-! ## Actions on a path -/

/-- On a path of a page, the action at a position was started and ended in some way. -/
def CarriesOut (settings : PageSettings) (actions : List Action) (steps : List (Task.Step E))
    (k : Nat) (action : Action) (y : Ending RunError (Option (Chain E))) : Prop :=
  actions[k]? = some action ∧
    ∃ chain body, (carryOut settings.wait chain action).Ends body y ∧ body ⊆ steps

theorem CarriesOut.cons {actions : List Action} {before : List (Task.Step E)} {k : Nat}
    {action first : Action} {y : Ending RunError (Option (Chain E))}
    (h : CarriesOut settings actions steps k action y) :
    CarriesOut settings (first :: actions) (before ++ steps) (k + 1) action y := by
  obtain ⟨haction, chain, body, hbody, hsteps⟩ := h
  exact ⟨haction, chain, body, hbody, List.Subset.trans hsteps (List.subset_append_right _ _)⟩

/-- An action that was started ended with a value, or it was the last one and ended the page
as it ended itself. -/
theorem exists_of_lt_started {actions : List Action} {x : Ending RunError Unit}
    (h : (runActions settings chain actions).Ends steps x) {k : Nat} (hk : k < Task.started steps) :
    ∃ action y, CarriesOut settings actions steps k action y ∧
      ((∃ c, y = .value c) ∨ k + 1 = Task.started steps ∧ y.Stops x) := by
  induction actions generalizing chain steps k with
  | nil =>
      -- nothing is started
      obtain ⟨rfl, -⟩ := Task.ends_ended_iff.mp h
      cases hk
  | cons action rest ih =>
      rcases runActions_cons_cases h with
        ⟨rfl, -⟩ | ⟨body, y, rfl, hbody, hstops⟩ |
          ⟨body, pause, more, chain', rfl, hbody, hpause, -, hmore⟩
      · -- the run was cancelled before the first action
        simp [Task.Step.starts] at hk
      · -- the first action stopped the page
        have hone : Task.started (⟨.isCancelled, false⟩ :: body : List (Task.Step E)) = 1 := by
          simpa using started_cons_carryOut hbody Task.started_nil
        obtain rfl : k = 0 := by omega
        exact ⟨action, y, ⟨rfl, chain, body, hbody, List.subset_cons_self _ _⟩,
          .inr ⟨hone.symm, hstops⟩⟩
      · -- the first action ended with a value, and the others follow
        have hone : Task.started ((⟨.isCancelled, false⟩ :: (body ++ pause)) ++ more) =
            Task.started more + 1 := by
          rw [Task.started_append, started_cons_carryOut hbody hpause, Nat.add_comm]
        rw [hone] at hk ⊢
        cases k with
        | zero =>
            refine ⟨action, .value chain', ⟨rfl, chain, body, hbody, ?_⟩, .inl ⟨chain', rfl⟩⟩
            intro s hs
            simp [hs]
        | succ k =>
            obtain ⟨action', y, hcarries, hy⟩ := ih hmore (Nat.lt_of_succ_lt_succ hk)
            refine ⟨action', y, hcarries.cons, hy.imp_right ?_⟩
            rintro ⟨hlast, hstops⟩
            exact ⟨congrArg (· + 1) hlast, hstops⟩

/-- A page is completed when all its actions have been started.  One that is not, and was not
cancelled, ended as the last action that was started. -/
theorem exists_stops {actions : List Action} {x : Ending RunError Unit}
    (h : (runActions settings chain actions).Ends steps x) :
    (x = .value () ∧ Task.started steps = actions.length) ∨ x = .failed .cancelled ∨
      ∃ k action y, k + 1 = Task.started steps ∧ CarriesOut settings actions steps k action y ∧
        y.Stops x := by
  induction actions generalizing chain steps with
  | nil =>
      obtain ⟨rfl, hx⟩ := Task.ends_ended_iff.mp h
      exact .inl ⟨hx, rfl⟩
  | cons action rest ih =>
      rcases runActions_cons_cases h with
        ⟨-, rfl⟩ | ⟨body, y, rfl, hbody, hstops⟩ |
          ⟨body, pause, more, chain', rfl, hbody, hpause, -, hmore⟩
      · exact .inr (.inl rfl)
      · have hone : Task.started (⟨.isCancelled, false⟩ :: body : List (Task.Step E)) = 1 := by
          simpa using started_cons_carryOut hbody Task.started_nil
        exact .inr (.inr ⟨0, action, y, hone.symm,
          ⟨rfl, chain, body, hbody, List.subset_cons_self _ _⟩, hstops⟩)
      · have hone : Task.started ((⟨.isCancelled, false⟩ :: (body ++ pause)) ++ more) =
            Task.started more + 1 := by
          rw [Task.started_append, started_cons_carryOut hbody hpause, Nat.add_comm]
        rcases ih hmore with ⟨hx, hall⟩ | hcancelled | ⟨k, action', y, hlast, hcarries, hstops⟩
        · refine .inl ⟨hx, ?_⟩
          rw [hone, hall, List.length_cons]
        · exact .inr (.inl hcancelled)
        · exact .inr (.inr ⟨k + 1, action', y, by omega, hcarries.cons, hstops⟩)

/-! ## Pages -/

section Page

variable {page : Page} {x : Ending RunError Unit}

/-- The action that a page started last on a path. -/
def lastStarted? (page : Page) (steps : List (Task.Step E)) : Option Action :=
  match Task.started steps with
  | 0 => none
  | k + 1 => page.actions[k]?

/-- A page whose calls do not panic panics exactly if its last action is an overlong delay. -/
theorem ends_panicked_iff (h : (page.run settings).Ends steps x)
    (hcalls : ∀ s ∈ steps, s.panic? = none) :
    (∃ p, x = .panicked p) ↔
      ∃ action text, lastStarted? page steps = some action ∧
        action.instruction = .ok (.delay text) ∧ Overlong text := by
  constructor
  · rintro ⟨p, rfl⟩
    rcases exists_stops h with ⟨hvalue, -⟩ | hcancelled | ⟨k, action, y, hlast, hcarries, hstops⟩
    · cases hvalue
    · cases hcancelled
    · obtain ⟨haction, chain, body, hbody, hsteps⟩ := hcarries
      cases hstops
      obtain ⟨text, hi, hlong⟩ :=
        (panics_iff_overlong hbody fun s hs => hcalls s (hsteps hs)).mp ⟨p, rfl⟩
      refine ⟨action, text, ?_, hi, hlong⟩
      rw [lastStarted?, ← hlast]
      exact haction
  · rintro ⟨action, text, hlast, hi, hlong⟩
    unfold lastStarted? at hlast
    split at hlast
    · cases hlast
    · next k hk =>
        obtain ⟨action', y, ⟨haction, chain, body, hbody, hsteps⟩, hy⟩ :=
          exists_of_lt_started h (show k < Task.started steps by omega)
        cases haction.symm.trans hlast
        obtain ⟨p, rfl⟩ :=
          (panics_iff_overlong hbody fun s hs => hcalls s (hsteps hs)).mpr ⟨text, hi, hlong⟩
        rcases hy with ⟨c, hvalue⟩ | ⟨-, hstops⟩
        · cases hvalue
        · cases hstops
          exact ⟨p, rfl⟩

theorem started_eq_length (h : (page.run settings).Ends steps (.value ())) :
    Task.started steps = page.actions.length := by
  rcases exists_stops h with ⟨-, hall⟩ | hcancelled | ⟨k, action, y, -, -, hstops⟩
  · exact hall
  · cases hcancelled
  · cases hstops

/-- An action that was started and can only fail was the last one, and failed the page. -/
theorem failed_of_started {k : Nat} {action : Action} {P : RunError → Prop}
    (h : (page.run settings).Ends steps x) (hk : k < Task.started steps)
    (haction : page.actions[k]? = some action)
    (hfails : ∀ {chain body y}, (carryOut settings.wait chain action).Ends body y →
      body ⊆ steps → ∃ e, y = .failed e ∧ P e) :
    k + 1 = Task.started steps ∧ ∃ e, x = .failed e ∧ P e := by
  obtain ⟨action', y, ⟨haction', chain, body, hbody, hsteps⟩, hy⟩ := exists_of_lt_started h hk
  cases haction'.symm.trans haction
  obtain ⟨e, rfl, he⟩ := hfails hbody hsteps
  rcases hy with ⟨c, hvalue⟩ | ⟨hlast, hstops⟩
  · cases hvalue
  · cases hstops
    exact ⟨hlast, e, rfl, he⟩

end Page

/-- A page whose calls do not panic, whoever answers its requests, panics exactly if the last
action that it started is a delay of `2 ^ 64` seconds or more.  To be completed it has to start
all its actions.  One that is started with a malformed parameter fails the page with an error
that names the parameter, and a switch to a frame fails it if no attempt to enter that frame
succeeds.

This is so in a build without overflow checks.  With them a wait would panic at its attempt
number `2 ^ 32`, where the counter of its attempts ends; a wait without a poll interval is not
followed any further in either case.  The deadlines are taken to be times that the clock can
hold. -/
theorem run_panics_iff_overlong {σ : Type} (answer : σ → (r : Effect E) → r.Reply E × σ) (s : σ)
    (settings : PageSettings) (page : Page)
    (hcalls : ∀ step ∈ Program.trace answer (page.run settings) s, Task.Step.panic? step = none) :
    let steps := Program.trace answer (page.run settings) s
    let x := (Program.run answer (page.run settings) s).1
    ((∃ p, x = .panicked p) ↔
        ∃ action text, lastStarted? page steps = some action ∧
          action.instruction = .ok (.delay text) ∧ Overlong text) ∧
      (x = .value () → Task.started steps = page.actions.length) ∧
      (∀ k action i bad, k < Task.started steps → page.actions[k]? = some action →
        action.instruction = .ok i → i.malformed? = some bad →
          k + 1 = Task.started steps ∧ ∃ e, x = .failed e ∧
            (e = .invalidParameter bad ∨
              ∃ key, i.typedVariable? = some key ∧ e = .unknownVariable key)) ∧
      ∀ k action frame, k < Task.started steps → page.actions[k]? = some action →
        action.instruction = .ok (.switchToFrame frame) →
        (∀ step ∈ steps, Task.Step.entered? step ≠ some (frameTarget frame)) →
          k + 1 = Task.started steps ∧ ∃ e, x = .failed e := by
  intro steps x
  have h : (page.run settings).Ends steps x := Program.leads_trace (page.run settings) s
  refine ⟨ends_panicked_iff h hcalls, fun hx => started_eq_length (hx ▸ h), ?_, ?_⟩
  · intro k action i bad hk haction hi hbad
    exact failed_of_started h hk haction fun hbody _ => failed_of_malformed hi hbad hbody
  · intro k action frame hk haction hi hswitch
    have hfails : ∀ {chain body y}, (carryOut settings.wait chain action).Ends body y →
        body ⊆ steps → ∃ e, y = .failed e ∧ True := by
      intro chain body y hbody hsteps
      obtain ⟨e, he⟩ := failed_of_no_switch hi hbody (fun s hs => hcalls s (hsteps hs))
        fun s hs => hswitch s (hsteps hs)
      exact ⟨e, he, trivial⟩
    obtain ⟨hlast, e, hx, -⟩ := failed_of_started h hk haction hfails
    exact ⟨hlast, e, hx⟩

/-- A page of one action. -/
def single (name : String) (params : List String) : Page := ⟨"p", [⟨name, params, 1⟩]⟩

/-- A browser without pages, none of whose calls panics. -/
def blankWorld : World := ⟨.start .blank none 0, .empty, []⟩

/-- A pace without delays. -/
def noDelays : PageSettings := ⟨0, 0, ⟨2000, 100, by decide⟩⟩

/-- A window that is too wide and a frame that is not there are errors; a pause of `1e25`
milliseconds is not. -/
theorem run_panics_iff_overlong_single :
    (∃ p, (blankWorld.run ((single "delay" ["1e25"]).run noDelays)).1 = .panicked p) ∧
      (blankWorld.run ((single "set_window_size" ["4294967296", "600"]).run noDelays)).1 =
        .failed (.invalidParameter (.dimension "4294967296")) ∧
      ∃ e, (blankWorld.run ((single "switch_to_frame" ["70000"]).run noDelays)).1 = .failed e := by
  have hlong : Overlong "1e25" := by
    refine overlong_iff.mpr ⟨⟨false, 4656612873077393, 31⟩, ?_, ?_⟩ <;> decide +kernel
  refine ⟨?_, ?_, ?_⟩
  · obtain ⟨hpanics, -⟩ := run_panics_iff_overlong World.answer blankWorld noDelays
      (single "delay" ["1e25"]) (by decide +kernel)
    exact hpanics.mpr ⟨⟨"delay", ["1e25"], 1⟩, "1e25", by decide +kernel, by decide +kernel, hlong⟩
  · obtain ⟨-, -, hmalformed, -⟩ := run_panics_iff_overlong World.answer blankWorld noDelays
      (single "set_window_size" ["4294967296", "600"]) (by decide +kernel)
    obtain ⟨-, e, hx, rfl | ⟨key, hkey, -⟩⟩ := hmalformed 0
      ⟨"set_window_size", ["4294967296", "600"], 1⟩ (.setWindowSize "4294967296" "600")
      (.dimension "4294967296") (by decide +kernel) rfl (by decide +kernel) (by decide +kernel)
    · exact hx
    · cases hkey
  · obtain ⟨-, -, -, hframe⟩ := run_panics_iff_overlong World.answer blankWorld noDelays
      (single "switch_to_frame" ["70000"]) (by decide +kernel)
    exact (hframe 0 ⟨"switch_to_frame", ["70000"], 1⟩ "70000" (by decide +kernel) rfl
      (by decide +kernel) (by decide +kernel)).2

/-- No call panics, but the delay does. -/
theorem overlong_delay_panics :
    (∀ s ∈ blankWorld.trace ((single "delay" ["1e25"]).run noDelays), s.panic? = none) ∧
      (blankWorld.run ((single "delay" ["1e25"]).run noDelays)).1 =
        .panicked Clock.pauseTooLong := by
  decide +kernel

end PageRun

end BrowserSuite
