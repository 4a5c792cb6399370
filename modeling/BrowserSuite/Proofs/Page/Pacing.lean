import BrowserSuite.Proofs.Page.Assignments
import BrowserSuite.Proofs.SuiteRun.Course
import BrowserSuite.Proofs.Wait.Clock
import Mathlib.Algebra.Ring.Nat

/-!
# The pace of a page

After every action that was completed the action delay passes, and before the last action of a
page the page delay as well.  An action that stops the page is followed by neither, so how long a
page takes depends on where it stops.

`handlings` lists the actions that are started, each with the world in which its handler begins.
Between two of them nothing but the delays passes (`clock_of_next`), because looking for a
cancellation and announcing an action take no time.  A page that has completed the first `k` of its
`n` actions has so taken the time of its handlers and `pauses settings n k`
(`clock_runActions`): the page delay is in it once, or not at all.
-/

namespace BrowserSuite

/-! ## Delays on the clock -/

/-- A delay whose end the clock can hold lasts as long as it was asked for. -/
theorem Site.clock_elapse {s : Site} {ms : Nat} (h : Clock.InRange (s.clock + ms)) :
    (s.elapse ms).clock = s.clock + ms := by
  unfold elapse
  split
  · rename_i hnone
    rw [hnone, Nat.add_zero]
  · exact if_pos h

namespace PageRun

variable {settings : PageSettings} {wait : WaitPolicy} {w : World} {chain : Option (Chain Handle)}
  {action : Action} {actions left : List Action}

/-- The delays after an action that has `left` actions behind it. -/
def pauseAfter (settings : PageSettings) (left : Nat) : Nat :=
  settings.actionDelay + if left = 1 then settings.pageDelay else 0

theorem clock_settle {v : World} {left : Nat}
    (h : Clock.InRange (v.site.clock + pauseAfter settings left)) :
    (v.run (settle settings left : Task Handle RunError Unit)).2.site.clock =
      v.site.clock + pauseAfter settings left := by
  have hfirst : (v.site.elapse settings.actionDelay).clock = v.site.clock + settings.actionDelay :=
    Site.clock_elapse (h.mono (by unfold pauseAfter; omega))
  have hslept : v.run (Task.sleep settings.actionDelay : Task Handle RunError Unit) =
      (.value (), { v with site := v.site.elapse settings.actionDelay }) := rfl
  rw [settle, World.run_bind_of_value hslept]
  unfold pauseAfter at h ⊢
  by_cases hlast : left = 1
  · rw [if_pos hlast, ← Nat.add_assoc, ← hfirst] at h
    rw [if_pos hlast, if_pos hlast, ← Nat.add_assoc, ← hfirst]
    exact Site.clock_elapse h
  · rw [if_neg hlast, if_neg hlast]
    exact hfirst

/-- The delays after the first `k` actions of a page of `n`. -/
def pauses (settings : PageSettings) (n k : Nat) : Nat :=
  k * settings.actionDelay + if 2 ≤ n ∧ n ≤ k + 1 then settings.pageDelay else 0

@[simp] theorem pauses_zero (settings : PageSettings) (n : Nat) : pauses settings n 0 = 0 := by
  unfold pauses
  rw [Nat.zero_mul, Nat.zero_add, if_neg (by omega)]

theorem pauses_succ (settings : PageSettings) {n k : Nat} (hk : k ≤ n) :
    pauses settings (n + 1) (k + 1) = pauseAfter settings n + pauses settings n k := by
  have hsplit : (if 2 ≤ n + 1 ∧ n + 1 ≤ k + 1 + 1 then settings.pageDelay else 0) =
      (if n = 1 then settings.pageDelay else 0) +
        if 2 ≤ n ∧ n ≤ k + 1 then settings.pageDelay else 0 := by
    by_cases hone : n = 1
    · rw [if_pos (by omega), if_pos hone, if_neg (by omega), Nat.add_zero]
    · have hsame : 2 ≤ n + 1 ∧ n + 1 ≤ k + 1 + 1 ↔ 2 ≤ n ∧ n ≤ k + 1 := by omega
      simp only [hsame, if_neg hone, Nat.zero_add]
  unfold pauses pauseAfter
  rw [hsplit, Nat.succ_mul]
  omega

/-! ## Handlers -/

/-- The handler of an action: it checks the action and executes its instruction. -/
def handle {E : Type} (wait : WaitPolicy) (chain : Option (Chain E)) (action : Action) :
    Task E RunError (Option (Chain E)) := do
  let instruction ← orStop action.instruction
  execute wait chain instruction

/-- An action is announced and then handled, unless the run is found to be cancelled. -/
theorem run_runAction_handle (w : World) (chain : Option (Chain Handle)) (action : Action) :
    w.run (runAction wait chain action) =
      if w.site.cancelled then (.failed .cancelled, w)
      else (w.logged (announcement w.store action)).run (handle wait chain action) := by
  rw [run_runAction]
  unfold handle
  cases action.instruction <;> rfl

/-- An action whose handler begins in a world, with the actions behind it. -/
structure Handling where
  world : World
  chain : Option (Chain Handle)
  action : Action
  left : List Action

namespace Handling

/-- How the handler ends, and the world that it leaves. -/
def ended (wait : WaitPolicy) (t : Handling) : Ending RunError (Option (Chain Handle)) × World :=
  t.world.run (handle wait t.chain t.action)

/-- How long the handler takes. -/
def time (wait : WaitPolicy) (t : Handling) : Nat :=
  Program.elapsed World.answer (fun v => v.site.clock) (handle wait t.chain t.action) t.world

theorem clock_ended (wait : WaitPolicy) (t : Handling) :
    (t.ended wait).2.site.clock = t.world.site.clock + t.time wait := by
  have hle := World.timed.le_run (handle wait t.chain t.action) t.world
  exact (Nat.add_sub_cancel' hle).symm

/-- If the handler ends with a value, the clock can hold the end of the delays after it. -/
def InRange (settings : PageSettings) (t : Handling) : Prop :=
  (t.ended settings.wait).1.fault? = none →
    Clock.InRange ((t.ended settings.wait).2.site.clock + pauseAfter settings t.left.length)

instance (settings : PageSettings) (t : Handling) : Decidable (t.InRange settings) :=
  inferInstanceAs (Decidable (_ → _))

end Handling

/-- The first handler of a page that has an action left. -/
def opened (w : World) (chain : Option (Chain Handle)) (action : Action) (left : List Action) :
    Handling :=
  ⟨w.logged (announcement w.store action), chain, action, left⟩

/-- The handlers that begin if the actions of a page are run in a world. -/
def handlings (settings : PageSettings) (w : World) (chain : Option (Chain Handle)) :
    List Action → List Handling
  | [] => []
  | action :: left =>
    if w.site.cancelled then []
    else
      opened w chain action left ::
        match (opened w chain action left).ended settings.wait with
        | (.value chain, v) =>
          handlings settings (v.run (settle settings left.length : Task Handle RunError Unit)).2
            chain left
        | _ => []

/-- A page halts at the action at position `k`: the run is found to be cancelled before it, or its
handler does not end with a value. -/
inductive HaltsAt (wait : WaitPolicy) : List Handling → Ending RunError Unit → Nat → Prop
  | cancelled (started : List Handling) :
      HaltsAt wait started (.failed .cancelled) started.length
  | handler (before : List Handling) {last : Handling} {x : Ending RunError Unit}
      (h : (last.ended wait).1.Stops x) : HaltsAt wait (before ++ [last]) x before.length

theorem HaltsAt.cons {started : List Handling} {x : Ending RunError Unit} {k : Nat}
    (h : HaltsAt wait started x k) (t : Handling) : HaltsAt wait (t :: started) x (k + 1) := by
  cases h with
  | cancelled => exact .cancelled (t :: started)
  | handler before h => exact .handler (t :: before) h

theorem started_runAction (w : World) (chain : Option (Chain Handle)) (action : Action) :
    Task.started (w.trace (runAction wait chain action)) = if w.site.cancelled then 0 else 1 := by
  have hlooked : w.trace (Task.isCancelled : Task Handle RunError Bool) =
      [⟨.isCancelled, w.site.cancelled⟩] := rfl
  rw [runAction_eq, World.trace_bind, World.run_isCancelled, hlooked]
  cases w.site.cancelled with
  | true => rfl
  | false =>
      have hone := started_cons_carryOut (w.ends_trace (carryOut wait chain action))
        Task.started_nil
      rwa [List.append_nil] at hone

/-- What is left of a page halts before its first action, is stopped by it, or goes on after the
delays that follow it. -/
theorem handlings_cons_cases (settings : PageSettings) (w : World) (chain : Option (Chain Handle))
    (action : Action) (left : List Action) :
    let t := opened w chain action left
    let started := handlings settings w chain (action :: left)
    let page := runActions settings chain (action :: left)
    (started = [] ∧ w.run page = (.failed .cancelled, w) ∧ Task.started (w.trace page) = 0) ∨
      (∃ x, (t.ended settings.wait).1.Stops x ∧ started = [t] ∧
        w.run page = (x, (t.ended settings.wait).2) ∧ Task.started (w.trace page) = 1) ∨
      ∃ chain' v u, t.ended settings.wait = (.value chain', v) ∧
        (v.run (settle settings left.length : Task Handle RunError Unit)).2 = u ∧
        started = t :: handlings settings u chain' left ∧
        w.run page = u.run (runActions settings chain' left) ∧
        Task.started (w.trace page) =
          Task.started (u.trace (runActions settings chain' left)) + 1 := by
  intro t started page
  have hran : w.run (runAction settings.wait chain action) =
      if w.site.cancelled then (.failed .cancelled, w) else t.ended settings.wait :=
    run_runAction_handle w chain action
  have hcount : Task.started (w.trace (runAction settings.wait chain action)) =
      if w.site.cancelled then 0 else 1 := started_runAction w chain action
  have hstarted : handlings settings w chain (action :: left) =
      if w.site.cancelled then []
      else
        t :: match t.ended settings.wait with
          | (.value chain, v) =>
            handlings settings (v.run (settle settings left.length : Task Handle RunError Unit)).2
              chain left
          | _ => [] := rfl
  dsimp only [started, page]
  rw [hstarted, run_runActions_cons, trace_runActions_cons, Task.started_append, hran, hcount]
  cases w.site.cancelled with
  | true => exact .inl ⟨rfl, rfl, rfl⟩
  | false =>
      refine .inr ?_
      rcases hended : t.ended settings.wait with ⟨chain' | e | p, v⟩
      · have hsettled := (settle_ends (v.ends_trace (settle settings left.length))).2
        refine .inr ⟨chain', v, _, rfl, rfl, rfl, rfl, ?_⟩
        simp [hsettled, Nat.add_comm]
      · exact .inl ⟨.failed e, .failed e, rfl, rfl, rfl⟩
      · exact .inl ⟨.panicked p, .panicked p, rfl, rfl, rfl⟩

/-- The handlers that begin are those of the first actions, one for each action that is started. -/
theorem drop_eq_of_handling {k : Nat} {t : Handling}
    (h : (handlings settings w chain actions)[k]? = some t) :
    actions.drop k = t.action :: t.left := by
  induction actions generalizing w chain k with
  | nil => cases h
  | cons action left ih =>
      rcases handlings_cons_cases settings w chain action left with
        ⟨hnone, -⟩ | ⟨x, -, hone, -⟩ | ⟨chain', v, u, -, -, hmore, -⟩
      · rw [hnone] at h
        cases h
      · rw [hone] at h
        cases k with
        | zero =>
            cases h
            rfl
        | succ k => cases h
      · rw [hmore] at h
        cases k with
        | zero =>
            cases h
            rfl
        | succ k => exact ih h

theorem length_handlings (settings : PageSettings) (w : World) (chain : Option (Chain Handle))
    (actions : List Action) :
    (handlings settings w chain actions).length =
      Task.started (w.trace (runActions settings chain actions)) := by
  induction actions generalizing w chain with
  | nil => rfl
  | cons action left ih =>
      rcases handlings_cons_cases settings w chain action left with
        ⟨hnone, -, hcount⟩ | ⟨x, -, hone, -, hcount⟩ | ⟨chain', v, u, -, -, hmore, -, hcount⟩
      · rw [hnone, hcount, List.length_nil]
      · rw [hone, hcount, List.length_singleton]
      · rw [hmore, hcount, List.length_cons, ih]

/-- A page begins its first handler at once. -/
theorem clock_of_first {t : Handling} (h : (handlings settings w chain actions)[0]? = some t) :
    t.world.site.clock = w.site.clock := by
  cases actions with
  | nil => cases h
  | cons action left =>
      rcases handlings_cons_cases settings w chain action left with
        ⟨hstarted, -⟩ | ⟨x, -, hstarted, -⟩ | ⟨chain', v, u, -, -, hstarted, -⟩ <;>
        rw [hstarted] at h <;> cases h <;> rfl

/-- When the page goes on after a handler that ended with a value. -/
theorem Handling.clock_settled {t : Handling} {chain' : Option (Chain Handle)} {v u : World}
    (hrange : t.InRange settings) (hended : t.ended settings.wait = (.value chain', v))
    (hsettled : (v.run (settle settings t.left.length : Task Handle RunError Unit)).2 = u) :
    u.site.clock = v.site.clock + pauseAfter settings t.left.length := by
  unfold InRange at hrange
  rw [hended] at hrange
  rw [← hsettled]
  exact clock_settle (hrange rfl)

/-- Between two handlers nothing passes but the delays. -/
theorem clock_of_next (hrange : ∀ t ∈ handlings settings w chain actions, t.InRange settings)
    {k : Nat} {t t' : Handling} (ht : (handlings settings w chain actions)[k]? = some t)
    (ht' : (handlings settings w chain actions)[k + 1]? = some t') :
    t'.world.site.clock =
      (t.ended settings.wait).2.site.clock + pauseAfter settings t.left.length := by
  induction actions generalizing w chain k with
  | nil => cases ht
  | cons action left ih =>
      rcases handlings_cons_cases settings w chain action left with
        ⟨hnone, -⟩ | ⟨x, -, hone, -⟩ | ⟨chain', v, u, hended, hsettled, hmore, -⟩
      · rw [hnone] at ht
        cases ht
      · rw [hone] at ht'
        cases ht'
      · rw [hmore] at hrange ht ht'
        obtain ⟨hfirst, hrest⟩ := List.forall_mem_cons.mp hrange
        cases k with
        | zero =>
            cases ht
            rw [clock_of_first ht', Handling.clock_settled hfirst hended hsettled, hended]
        | succ k => exact ih hrest ht ht'

/-- How a page ends, and when: it is completed, or it halts at some action.  What passes is the time
of the handlers, and the delays after those that ended with a value. -/
theorem clock_runActions
    (hrange : ∀ t ∈ handlings settings w chain actions, t.InRange settings) :
    let started := handlings settings w chain actions
    let spent := (started.map (Handling.time settings.wait)).sum
    let page := w.run (runActions settings chain actions)
    (page.1 = .value () ∧ started.length = actions.length ∧
        page.2.site.clock =
          w.site.clock + (spent + pauses settings actions.length actions.length)) ∨
      page.1 ≠ .value () ∧ ∃ k < actions.length, HaltsAt settings.wait started page.1 k ∧
        page.2.site.clock = w.site.clock + (spent + pauses settings actions.length k) := by
  intro started spent page
  dsimp only [started, spent, page]
  induction actions generalizing w chain with
  | nil => exact .inl ⟨rfl, rfl, by simp; rfl⟩
  | cons action left ih =>
      have htime : ((opened w chain action left).ended settings.wait).2.site.clock =
          w.site.clock + (opened w chain action left).time settings.wait :=
        (opened w chain action left).clock_ended settings.wait
      rcases handlings_cons_cases settings w chain action left with
        ⟨hnone, hran, -⟩ | ⟨x, hstops, hone, hran, -⟩ |
        ⟨chain', v, u, hended, hsettled, hmore, hran, -⟩
      · refine .inr ?_
        rw [hnone, hran]
        exact ⟨nofun, 0, Nat.succ_pos _, .cancelled [], by simp⟩
      · refine .inr ?_
        obtain ⟨reason, -, hfault⟩ := hstops.exists_fault
        have hx : x ≠ .value () := by
          rintro rfl
          cases hfault
        rw [hone, hran]
        exact ⟨hx, 0, Nat.succ_pos _, .handler [] hstops, by simpa using htime⟩
      · -- the page goes on at `u`, after the handler and its delays
        rw [hmore] at hrange ⊢
        rw [hran]
        obtain ⟨hfirst, hrest⟩ := List.forall_mem_cons.mp hrange
        have hu : u.site.clock =
            w.site.clock + ((opened w chain action left).time settings.wait +
              pauseAfter settings left.length) := by
          rw [hended] at htime
          rw [Handling.clock_settled hfirst hended hsettled, htime, Nat.add_assoc]
          rfl
        rw [List.map_cons, List.sum_cons, List.length_cons, List.length_cons]
        rcases ih hrest with ⟨hvalue, hlength, hclock⟩ | ⟨hstopped, k, hk, hhalts, hclock⟩
        · refine .inl ⟨hvalue, by rw [hlength], ?_⟩
          rw [hclock, hu, pauses_succ settings (Nat.le_refl _)]
          omega
        · refine .inr ⟨hstopped, k + 1, Nat.succ_lt_succ hk, hhalts.cons _, ?_⟩
          rw [hclock, hu, pauses_succ settings (Nat.le_of_lt hk)]
          omega

end PageRun

open PageRun in
/-- As long as the clock can hold the ends of the delays, a page keeps its pace.  It begins the
handlers of its first actions, one for each action that is started, and between two of them nothing
passes but the action delay, and before the last action the page delay.  A page that is completed
takes the time of its handlers, the action delay once for each action, and the page delay once if
there are at least two.  A page that halts at the action at position `k`, because its handler fails
or panics or because the run is found to be cancelled before it, takes the time of the handlers that
have begun, the action delay `k` times, and the page delay exactly if this is the last action and
not the only one. -/
theorem page_keeps_its_pace (settings : PageSettings) (w : World) (page : Page)
    (hrange : ∀ t ∈ handlings settings w none page.actions, t.InRange settings) :
    let n := page.actions.length
    let started := handlings settings w none page.actions
    let spent := (started.map (Handling.time settings.wait)).sum
    let ending := (w.run (page.run settings)).1
    let elapsed := Program.elapsed World.answer (fun v => v.site.clock) (page.run settings) w
    started.length = Task.started (w.trace (page.run settings)) ∧
      (∀ k t, started[k]? = some t → page.actions.drop k = t.action :: t.left) ∧
      (∀ k t t', started[k]? = some t → started[k + 1]? = some t' →
        t'.world.site.clock = (t.ended settings.wait).2.site.clock + settings.actionDelay +
          if k + 2 = n then settings.pageDelay else 0) ∧
      (ending = .value () → started.length = n ∧
        elapsed = spent + n * settings.actionDelay + if 2 ≤ n then settings.pageDelay else 0) ∧
      (ending ≠ .value () → ∃ k < n, HaltsAt settings.wait started ending k ∧
        elapsed = spent + k * settings.actionDelay +
          if 2 ≤ n ∧ k = n - 1 then settings.pageDelay else 0) := by
  intro n started spent ending elapsed
  have hplace : ∀ k t, started[k]? = some t → page.actions.drop k = t.action :: t.left :=
    fun k t ht => drop_eq_of_handling ht
  have helapsed : ∀ k, (w.run (page.run settings)).2.site.clock =
      w.site.clock + (spent + pauses settings n k) → elapsed = spent + pauses settings n k :=
    fun k hclock => by
      change (w.run (page.run settings)).2.site.clock - w.site.clock = _
      omega
  refine ⟨length_handlings settings w none page.actions, hplace, fun k t t' ht ht' => ?_,
    fun hvalue => ?_, fun hstopped => ?_⟩
  · have hleft : t.left.length = 1 ↔ k + 2 = n := by
      have hlength := congrArg List.length (hplace k t ht)
      rw [List.length_drop, List.length_cons] at hlength
      omega
    rw [clock_of_next hrange ht ht', pauseAfter, Nat.add_assoc]
    simp only [hleft]
  · rcases clock_runActions hrange with ⟨-, hall, hclock⟩ | ⟨hne, -⟩
    · refine ⟨hall, (helapsed n hclock).trans ?_⟩
      have hboth : 2 ≤ n ∧ n ≤ n + 1 ↔ 2 ≤ n := by omega
      simp only [pauses, hboth, Nat.add_assoc]
    · exact absurd hvalue hne
  · rcases clock_runActions hrange with ⟨hvalue, -⟩ | ⟨-, k, hk, hhalts, hclock⟩
    · exact absurd hvalue hstopped
    · refine ⟨k, hk, hhalts, (helapsed k hclock).trans ?_⟩
      have hlast : 2 ≤ n ∧ n ≤ k + 1 ↔ 2 ≤ n ∧ k = n - 1 := by omega
      simp only [pauses, hlast, Nat.add_assoc]

/-- Three actions: a pause, a click, and a text that is never looked at. -/
def unhurried : Page :=
  ⟨"p", [⟨"delay", ["30"], 1⟩, ⟨"click", ["id", "ok"], 2⟩,
    ⟨"verify_text", ["id", "ok", "Done"], 3⟩]⟩

/-- A button that takes some time to be clicked, and a run that is cancelled during the page delay
after it. -/
def unhurriedWorld : World :=
  let browser := Scripted.blank.addElement ⟨"id=ok", 0, "", [], [], 0, false, 0⟩
  let slow : Scripted.Rule := ⟨"click", none, 0, none, 40, false, none, none⟩
  ⟨.start { browser with rules := [slow] } (some 100) 0, .empty, []⟩

open PageRun in
/-- The page delay passes to its end, and only then the run is found to be cancelled. -/
theorem page_keeps_its_pace_unhurried :
    let settings : PageSettings := ⟨10, 500, ⟨2000, 100, by decide⟩⟩
    let started := handlings settings unhurriedWorld none unhurried.actions
    let ending := (unhurriedWorld.run (unhurried.run settings)).1
    ending = .failed .cancelled ∧ HaltsAt settings.wait started ending 2 ∧
      (started.map (Handling.time settings.wait)).sum = 30 + 40 ∧
      Program.elapsed World.answer (fun v => v.site.clock) (unhurried.run settings) unhurriedWorld =
        30 + 40 + 2 * 10 + 500 := by
  intro settings started ending
  have hending : ending = .failed .cancelled := by decide +kernel
  have hspent : (started.map (Handling.time settings.wait)).sum = 70 := by decide +kernel
  have helapsed : Program.elapsed World.answer (fun v => v.site.clock) (unhurried.run settings)
      unhurriedWorld = 590 := by decide +kernel
  obtain ⟨-, -, -, -, hstops⟩ :=
    page_keeps_its_pace settings unhurriedWorld unhurried (by decide +kernel)
  have hstopped : ending ≠ .value () := by
    rw [hending]
    nofun
  obtain ⟨k, hk, hhalts, htime⟩ := hstops hstopped
  refine ⟨hending, ?_, hspent, helapsed⟩
  have hlast : k = 2 := by
    refine Decidable.byContradiction fun hearlier => ?_
    rw [helapsed, hspent, if_neg fun h => hearlier h.2] at htime
    change 590 = 70 + k * 10 + 0 at htime
    change k < 3 at hk
    omega
  rwa [hlast] at hhalts

end BrowserSuite
