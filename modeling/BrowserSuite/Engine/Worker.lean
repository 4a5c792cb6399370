import BrowserSuite.Engine.Queue
import BrowserSuite.Engine.SuiteRun
import BrowserSuite.Engine.World
import BrowserSuite.Report.Log

/-!
# Workers

A worker opens its session, takes and runs suites until the queue is empty, the
run is cancelled or its session is lost, and closes the session.  It dies when a
panic escapes a suite, or while it opens or closes its session.

`Desk.step` is what one worker does next, up to its next request.  Looking
whether the run is cancelled and taking a suite is one step.

## Why a worker ends

Every step takes a suite from the queue or brings the worker nearer to its end,
where a worker that runs a suite comes nearer by going down one branch of its
program.  `Phase.Nearer` is that order; it has no infinite descent because
programs have no infinite branch.
-/

namespace BrowserSuite

/-! ## Phases -/

/-- What a worker is doing. -/
inductive Phase where
  | opening
  | idle
  | running (suite : Suite) (rest : Task Handle Empty SuiteRun)
  | closing
  | ended

namespace Phase

/-- The order in which the phases of a worker follow each other between two
suites. -/
def stage : Phase → Nat
  | opening => 4
  | running _ _ => 3
  | idle => 2
  | closing => 1
  | ended => 0

/-- One phase is nearer to the worker's end than another one. -/
inductive Nearer : Phase → Phase → Prop where
  | stage {p q : Phase} (h : p.stage < q.stage) : Nearer p q
  | branch (suite : Suite) (r : Effect Handle)
      (next : r.Reply Handle → Task Handle Empty SuiteRun) (reply : r.Reply Handle) :
      Nearer (running suite (next reply)) (running suite (Program.ask r next))

private theorem acc_of_stage_lt {n : Nat} (below : ∀ p : Phase, p.stage < n → Acc Nearer p)
    {q : Phase} (hq : q.stage = n) (h : ∀ suite rest, q ≠ running suite rest) :
    Acc Nearer q := by
  refine Acc.intro q fun p hp => ?_
  cases hp with
  | stage hlt => exact below p (hq ▸ hlt)
  | branch suite r next reply => exact absurd rfl (h suite _)

private theorem acc_running (below : ∀ p : Phase, p.stage < 3 → Acc Nearer p) (suite : Suite)
    (rest : Task Handle Empty SuiteRun) : Acc Nearer (running suite rest) := by
  induction rest with
  | done a =>
    refine Acc.intro _ fun p hp => ?_
    cases hp with
    | stage hlt => exact below p hlt
  | ask r next ih =>
    refine Acc.intro _ fun p hp => ?_
    cases hp with
    | stage hlt => exact below p hlt
    | branch _ _ _ reply => exact ih reply

theorem nearer_wellFounded : WellFounded Nearer := by
  have h0 : ∀ p : Phase, p.stage < 1 → Acc Nearer p := fun p hp =>
    acc_of_stage_lt (n := 0) (fun _ h => absurd h (Nat.not_lt_zero _))
      (by omega) fun s r h => by subst h; simp [stage] at hp
  have h1 : ∀ p : Phase, p.stage < 2 → Acc Nearer p := fun p hp => by
    by_cases h : p.stage < 1
    · exact h0 p h
    · exact acc_of_stage_lt (n := 1) h0 (by omega) fun s r h => by subst h; simp [stage] at hp
  have h2 : ∀ p : Phase, p.stage < 3 → Acc Nearer p := fun p hp => by
    by_cases h : p.stage < 2
    · exact h1 p h
    · exact acc_of_stage_lt (n := 2) h1 (by omega) fun s r h => by subst h; simp [stage] at hp
  have h3 : ∀ p : Phase, p.stage < 4 → Acc Nearer p := fun p hp => by
    cases p with
    | running suite rest => exact acc_running h2 suite rest
    | opening => simp [stage] at hp
    | idle => exact h2 _ (by simp [stage])
    | closing => exact h2 _ (by simp [stage])
    | ended => exact h2 _ (by simp [stage])
  refine ⟨fun p => ?_⟩
  cases p with
  | opening => exact acc_of_stage_lt (n := 4) h3 rfl (by simp)
  | running suite rest => exact h3 _ (by simp [stage])
  | idle => exact h3 _ (by simp [stage])
  | closing => exact h3 _ (by simp [stage])
  | ended => exact h3 _ (by simp [stage])

end Phase

/-- A worker.  While it waits for the delay of a rule to pass it holds that
rule. -/
structure Worker where
  store : Store
  phase : Phase
  held : Option Scripted.Rule
  /-- When it goes on. -/
  wake : Nat
  /-- How many pauses had begun when its last one did. -/
  turn : Nat

namespace Worker

/-- A worker is nearer to its end when its phase is, or when it has begun to
wait for what it could not do at once. -/
def Nearer (v w : Worker) : Prop :=
  v.phase.Nearer w.phase ∨ v.phase = w.phase ∧ v.held.isSome ∧ w.held = none

theorem nearer_wellFounded : WellFounded Nearer := by
  have waiting : ∀ p : Phase, (∀ v : Worker, v.phase.Nearer p → Acc Nearer v) →
      ∀ w : Worker, w.phase = p → w.held.isSome → Acc Nearer w := by
    intro p below w hw hheld
    refine Acc.intro w fun v hv => ?_
    rcases hv with hv | ⟨_, _, hnone⟩
    · exact below v (hw ▸ hv)
    · simp [hnone] at hheld
  have all : ∀ p : Phase, ∀ w : Worker, w.phase = p → Acc Nearer w := by
    intro p
    induction p using Phase.nearer_wellFounded.induction with
    | _ p ih =>
      have below : ∀ v : Worker, v.phase.Nearer p → Acc Nearer v :=
        fun v hv => ih v.phase hv v rfl
      intro w hw
      refine Acc.intro w fun v hv => ?_
      rcases hv with hv | ⟨heq, hsome, _⟩
      · exact below v (hw ▸ hv)
      · exact waiting p below v (heq.trans hw) hsome
  exact ⟨fun w => all w.phase w rfl⟩

end Worker

/-! ## One step of a worker -/

/-- What the workers share. -/
structure Desk where
  queue : SuiteQueue
  finished : List SuiteResult
  log : List LogEntry
  site : Site
  startedAt : Moment
  /-- How many pauses have begun. -/
  turns : Nat

namespace Desk

/-- A message in the log of a suite. -/
def write (d : Desk) (suite message : String) : Desk :=
  { d with log := d.log ++ [⟨d.startedAt.later d.site.clock, suite, message⟩] }

/-- Lets a worker pause until a time. -/
def pauseUntil (d : Desk) (w : Worker) (time : Nat) : Desk × Worker :=
  ({ d with turns := d.turns + 1 }, { w with wake := time, turn := d.turns })

/-- Lets a worker pause. -/
def pause (d : Desk) (w : Worker) (ms : Nat) : Desk × Worker :=
  d.pauseUntil w (Clock.after d.site.clock ms)

/-- Makes a session call: finds its rule, waits for the rule's delay if it has
one, and goes on with `proceed`. -/
def withRule (d : Desk) (w : Worker) (op key : String)
    (proceed : Desk → Option Scripted.Rule → Desk × Phase) : Desk × Worker :=
  let conclude := fun (d : Desk) (rule : Option Scripted.Rule) =>
    let (d, phase) := proceed d rule
    (d, { w with phase := phase, held := none })
  match w.held with
  | some rule => conclude d (some rule)
  | none =>
    let (rule, site) := d.site.startCall op key
    let d := { d with site := site }
    if 0 < ruleDelay rule then d.pause { w with held := rule } (ruleDelay rule)
    else conclude d rule

/-- Ends a call and goes on with its reply. -/
def endCall {α : Type} (d : Desk) (rule : Option Scripted.Rule)
    (call : Scripted → Ending BrowserError α × Scripted)
    (next : Ending BrowserError α → Phase) : Desk × Phase :=
  let (reply, site) := d.site.endCall rule call
  ({ d with site := site }, next reply)

/-- What a worker does next. -/
def step (settings : PageSettings) (d : Desk) (w : Worker) : Desk × Worker :=
  match w.phase with
  | .opening =>
    d.withRule w "open" "" fun d rule =>
      d.endCall rule (·.openSession) fun
        | .value _ => .idle
        | _ => .ended
  | .idle =>
    if d.site.cancelled then (d, { w with phase := .closing })
    else
      match d.queue.take? with
      | none => (d, { w with phase := .closing })
      | some (suite, rest) =>
        ({ d with queue := rest }, { w with phase := .running suite (suite.run settings) })
  | .running _ (.done (.value run)) =>
    ({ d with finished := d.finished ++ [run.result] },
      { w with phase := if run.fatal.isSome then .closing else .idle })
  | .running _ (.done (.panicked _)) => (d, { w with phase := .ended })
  | .running suite (.ask (.call c) next) =>
    d.withRule w (Scripted.opOf c) (Scripted.keyOf c) fun d rule =>
      d.endCall rule (·.perform c) fun reply => .running suite (next reply)
  | .running suite (.ask (.sleep ms) next) =>
    let w := { w with phase := .running suite (next ()) }
    if ms = 0 then (d, w) else d.pause w ms
  | .running suite (.ask (.sleepUntil time) next) =>
    let w := { w with phase := .running suite (next ()) }
    if time ≤ d.site.clock then (d, w) else d.pauseUntil w time
  | .running suite (.ask (.log message) next) =>
    (d.write suite.name message, { w with phase := .running suite (next ()) })
  | .running suite (.ask r next) =>
    let (reply, world) := World.answer ⟨d.site, w.store, []⟩ r
    ({ d with site := world.site },
      { w with phase := .running suite (next reply), store := world.store })
  | .closing =>
    d.withRule w "quit" "" fun d rule => d.endCall rule (·.perform .quit) fun _ => .ended
  | .ended => (d, w)

/-- A step that leaves the queue alone and brings its worker nearer to the end. -/
private def Advances (d : Desk) (w : Worker) (result : Desk × Worker) : Prop :=
  result.1.queue = d.queue ∧ result.2.Nearer w

private theorem advances_pauseUntil {d e : Desk} {v w : Worker} {time : Nat}
    (hqueue : e.queue = d.queue)
    (h : v.phase.Nearer w.phase ∨ v.phase = w.phase ∧ v.held.isSome ∧ w.held = none) :
    Advances d w (e.pauseUntil v time) :=
  ⟨hqueue, h⟩

private theorem advances_withRule {d : Desk} {w : Worker} {op key : String}
    {proceed : Desk → Option Scripted.Rule → Desk × Phase}
    (h : ∀ d rule, (proceed d rule).1.queue = d.queue ∧ (proceed d rule).2.Nearer w.phase) :
    Advances d w (d.withRule w op key proceed) := by
  unfold withRule
  split
  · rename_i rule _
    exact ⟨(h d (some rule)).1, .inl (h d (some rule)).2⟩
  · rename_i hheld
    simp only
    generalize d.site.startCall op key = started
    obtain ⟨rule, site⟩ := started
    simp only
    split
    · rename_i hdelay
      refine advances_pauseUntil rfl (.inr ⟨rfl, ?_, hheld⟩)
      cases rule with
      | none => simp [ruleDelay] at hdelay
      | some r => rfl
    · exact ⟨(h { d with site := site } rule).1, .inl (h { d with site := site } rule).2⟩

/-- Every step of a worker that has not ended takes a suite from the queue or
brings the worker nearer to its end. -/
theorem step_advances (settings : PageSettings) (d : Desk) (w : Worker) (h : w.phase ≠ .ended) :
    (step settings d w).1.queue.size < d.queue.size ∨
      (step settings d w).1.queue = d.queue ∧ (step settings d w).2.Nearer w := by
  unfold step
  split
  · rename_i hphase
    refine .inr (advances_withRule fun d rule => ⟨rfl, ?_⟩)
    rw [hphase]
    simp only [endCall]
    split <;> exact .stage (by simp [Phase.stage])
  · rename_i hphase
    split
    · exact .inr ⟨rfl, .inl (by rw [hphase]; exact .stage (by simp [Phase.stage]))⟩
    · split
      · exact .inr ⟨rfl, .inl (by rw [hphase]; exact .stage (by simp [Phase.stage]))⟩
      · rename_i hqueue
        exact .inl (SuiteQueue.size_of_take? hqueue)
  · rename_i hphase
    refine .inr ⟨rfl, .inl ?_⟩
    rw [hphase]
    simp only
    split <;> exact .stage (by simp [Phase.stage])
  · rename_i hphase
    exact .inr ⟨rfl, .inl (by rw [hphase]; exact .stage (by simp [Phase.stage]))⟩
  · rename_i suite c next hphase
    refine .inr (advances_withRule fun d rule => ⟨rfl, ?_⟩)
    rw [hphase]
    exact .branch suite (.call c) next _
  · rename_i suite ms next hphase
    have hnearer : (Phase.running suite (next ())).Nearer w.phase := by
      rw [hphase]
      exact .branch suite (.sleep ms) next ()
    simp only
    split
    · exact .inr ⟨rfl, .inl hnearer⟩
    · exact .inr (advances_pauseUntil rfl (.inl hnearer))
  · rename_i suite time next hphase
    have hnearer : (Phase.running suite (next ())).Nearer w.phase := by
      rw [hphase]
      exact .branch suite (.sleepUntil time) next ()
    simp only
    split
    · exact .inr ⟨rfl, .inl hnearer⟩
    · exact .inr (advances_pauseUntil rfl (.inl hnearer))
  · rename_i suite message next hphase
    refine .inr ⟨rfl, .inl ?_⟩
    rw [hphase]
    exact .branch suite (.log message) next ()
  · rename_i suite r next _ _ _ _ hphase
    refine .inr ⟨rfl, .inl ?_⟩
    rw [hphase]
    exact .branch suite r next _
  · rename_i hphase
    refine .inr (advances_withRule fun d rule => ⟨rfl, ?_⟩)
    rw [hphase]
    exact .stage (by simp [Phase.stage, endCall])
  · rename_i hphase
    exact absurd hphase h

end Desk

end BrowserSuite
