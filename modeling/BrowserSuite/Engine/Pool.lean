import BrowserSuite.Engine.Worker
import BrowserSuite.Report.Report

/-!
# The worker pool

A bounded number of workers drain one queue of suites, each on a session and a
store of its own.  When one of them dies the others go on.

Workers take turns only when they pause: of those that still have work, the one
whose pause ends first goes on, and of several the one whose pause began first.
`Crew.next?` is that choice and the step that follows; `Crew.finish` repeats it
until all workers have ended.

The report accounts for every suite of the run: those that a worker finished,
those that were left in the queue, and those that a dying worker took with it.
It is put together when all workers have ended, and that is taken as one moment:
a run that is cancelled while its report is written is as good as not cancelled.
-/

namespace BrowserSuite

/-- The workers and what they share. -/
structure Crew where
  desk : Desk
  workers : List Worker

namespace Crew

/-- Whether one worker is due before another one. -/
def dueBefore (v w : Worker) : Bool :=
  v.wake < w.wake || (v.wake == w.wake && v.turn < w.turn)

/-- The one of two workers, each with its place, that is due first.  Of two that are
due together it is the one that stands first. -/
def earlier (best : Option (Worker × Nat)) (c : Worker × Nat) : Option (Worker × Nat) :=
  match best with
  | none => some c
  | some b => if dueBefore c.1 b.1 then some c else some b

/-- The place of the worker that goes on next, among those that have not ended. -/
def due? (workers : List Worker) : Option Nat :=
  let candidates := workers.zipIdx.filter fun c => c.1.phase.stage != 0
  (candidates.foldl earlier none).map (·.2)

/-- The next step, if there is a worker that has not ended.  If that worker is
still pausing, its pause ends first. -/
def next? (settings : PageSettings) (c : Crew) : Option Crew :=
  match due? c.workers with
  | none => none
  | some i =>
    match c.workers[i]? with
    | none => none
    | some w =>
      if w.phase.stage = 0 then none
      else
        let site := c.desk.site.advance (max c.desk.site.clock w.wake)
        let (desk, w) := { c.desk with site := site }.step settings w
        some ⟨desk, c.workers.set i w⟩

/-- One of some workers has come nearer to its end. -/
def OneNearer (vs ws : List Worker) : Prop :=
  ∃ i w v, ws[i]? = some w ∧ vs = ws.set i v ∧ v.Nearer w

private theorem acc_cons {w : Worker} (hw : Acc Worker.Nearer w) :
    ∀ {ws : List Worker}, Acc OneNearer ws → Acc OneNearer (w :: ws) := by
  induction hw with
  | intro w _ ihw =>
    intro ws hws
    induction hws with
    | intro ws hbelow ihws =>
      refine Acc.intro _ fun vs hvs => ?_
      obtain ⟨i, u, v, hu, rfl, hv⟩ := hvs
      cases i with
      | zero =>
        simp only [List.getElem?_cons_zero, Option.some.injEq] at hu
        subst hu
        exact ihw v hv (Acc.intro ws hbelow)
      | succ i => exact ihws _ ⟨i, u, v, by simpa using hu, rfl, hv⟩

theorem oneNearer_wellFounded : WellFounded OneNearer := by
  refine ⟨fun ws => ?_⟩
  induction ws with
  | nil =>
    refine Acc.intro _ fun vs hvs => ?_
    obtain ⟨i, w, v, hw, _, _⟩ := hvs
    simp at hw
  | cons w ws ih => exact acc_cons (Worker.nearer_wellFounded.apply w) ih

/-- Fewer suites in the queue, or one worker nearer to its end. -/
instance : WellFoundedRelation Crew where
  rel c d := Prod.Lex (· < ·) OneNearer (c.desk.queue.size, c.workers)
    (d.desk.queue.size, d.workers)
  wf := InvImage.wf (fun c : Crew => (c.desk.queue.size, c.workers))
    (Prod.lex ⟨_, Nat.lt_wfRel.wf⟩ ⟨_, oneNearer_wellFounded⟩).wf

theorem next?_decreases {settings : PageSettings} {c d : Crew} (h : c.next? settings = some d) :
    WellFoundedRelation.rel d c := by
  unfold next? at h
  split at h
  · simp at h
  · rename_i i _
    split at h
    · simp at h
    · rename_i w hw
      split at h
      · simp at h
      · rename_i hstage
        simp only [Option.some.injEq] at h
        subst h
        have hended : w.phase ≠ .ended := by
          intro he
          simp [he, Phase.stage] at hstage
        rcases Desk.step_advances settings
          { c.desk with site := c.desk.site.advance (max c.desk.site.clock w.wake) } w hended
          with hlt | ⟨heq, hnear⟩
        · exact Prod.Lex.left _ _ hlt
        · change Prod.Lex _ _ (_, _) (_, _)
          rw [show SuiteQueue.size _ = SuiteQueue.size _ from congrArg SuiteQueue.size heq]
          exact Prod.Lex.right _ ⟨i, w, _, hw, rfl, hnear⟩

/-- Lets the workers work until all of them have ended. -/
def finish (settings : PageSettings) (c : Crew) : Crew :=
  match _h : c.next? settings with
  | none => c
  | some d => finish settings d
termination_by c
decreasing_by exact next?_decreases _h

/-- Workers that have not begun, with a queue of suites. -/
def start (suites : List Suite) (store : Store) (site : Site) (startedAt : Moment)
    (workers : Nat) : Crew where
  desk := ⟨⟨suites⟩, [], [], site, startedAt, workers⟩
  workers := (List.range workers).map fun i => ⟨store, .opening, none, 0, i⟩

end Crew

/-! ## A whole run -/

/-- The number of workers for a run. -/
def workerCount (threads suites : Nat) : Nat := min threads suites

/-- Where the first suite of a name stands. -/
def placeOf (suites : List Suite) (name : String) : Nat := suites.findIdx fun s => s.name == name

/-- The log lines of a suite that no worker finished. -/
def notRunLines (time : Moment) (suite : Suite) (reason : String) : List LogEntry :=
  [⟨time, suite.name, s!"X {reason}"⟩, ⟨time, suite.name, s!"X Suite Failed: {suite.name}"⟩]

namespace Crew

/-- Why no worker took the suites that are left.  The report asks once more whether
the run has been cancelled, at the same moment. -/
def leftReason (c : Crew) : String :=
  if c.desk.site.cancelled then "run cancelled" else "not run: no browser session available"

/-- The suites that no worker took. -/
def left (c : Crew) : List Suite := c.desk.queue.drain.1

/-- The results of the suites that were finished or that no worker took. -/
def known (c : Crew) : List SuiteResult :=
  c.desk.finished ++ c.left.map fun s => SuiteResult.notRun s c.leftReason

/-- The suites of whose names there is no result. -/
def crashed (suites : List Suite) (c : Crew) : List Suite :=
  suites.filter fun s => !c.known.any fun r => r.name == s.name

/-- The results of all suites that are reported. -/
def results (suites : List Suite) (c : Crew) : List SuiteResult :=
  c.known ++ (c.crashed suites).map fun s => SuiteResult.notRun s "worker crashed"

/-- The log of the workers and the lines of the suites that none of them finished. -/
def entries (suites : List Suite) (c : Crew) : List LogEntry :=
  let time := c.desk.startedAt.later c.desk.site.clock
  c.desk.log ++ c.left.flatMap (notRunLines time · c.leftReason) ++
    (c.crashed suites).flatMap (notRunLines time · "worker crashed")

/-- The report on a crew of which all workers have ended.  Suites that no worker
took, and suites that are in no result because their worker died, are reported
as not run; results follow the order of the suites. -/
def report (suites : List Suite) (c : Crew) : Report where
  startedAt := c.desk.startedAt
  elapsed := Duration.ofMillis c.desk.site.clock
  workers := c.workers.length
  cancelled := c.desk.site.cancelled
  suites := (c.results suites).mergeSort fun a b => placeOf suites a.name ≤ placeOf suites b.name
  log := grouped (c.entries suites)

end Crew

/-- Runs suites on a number of workers, each with its own copy of the store. -/
def runSuites (settings : PageSettings) (threads : Nat) (suites : List Suite) (store : Store)
    (site : Site) (startedAt : Moment) : Crew :=
  (Crew.start suites store site startedAt (workerCount threads suites.length)).finish settings

end BrowserSuite
