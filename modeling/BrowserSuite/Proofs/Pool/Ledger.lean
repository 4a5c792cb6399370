import BrowserSuite.Proofs.Pool.Run
import BrowserSuite.Proofs.SuiteRun.Verdict
import Mathlib.Data.List.Nodup

/-!
# The ledger of a run

The history of a run tells which suites were taken, in which order and by whom,
and what became of each.  `ledger` reads that off the turns; suites are told apart
by their place in it and never by their names.

`Accounts` is the invariant that ties the ledger to the crew: together with the
queue it is the list of suites that the run was given, its finished suites are the
results on the desk, and every worker that is running a suite is somewhere on a
path of that suite's program.  `accounts_of_run` is the run lemma.
-/

namespace BrowserSuite

/-- What has become of a suite that a worker took. -/
inductive Fate where
  | running
  | finished (result : SuiteResult)
  | lost
  deriving DecidableEq, Repr

/-- A suite that was taken, the place of the worker that took it, and what has
become of it. -/
structure Job where
  suite : Suite
  worker : Nat
  fate : Fate
  deriving DecidableEq, Repr

namespace Job

/-- The result of a suite that was finished. -/
def result? (j : Job) : Option SuiteResult :=
  match j.fate with
  | .finished result => some result
  | _ => none

/-- Whether a worker is running the suite. -/
def runsAt (i : Nat) (j : Job) : Bool := j.worker == i && j.fate == .running

/-- Decides the fate of the suite that a worker is running. -/
def settle (i : Nat) (fate : Fate) (j : Job) : Job :=
  if j.runsAt i then { j with fate := fate } else j

variable {i k : Nat} {fate : Fate} {j : Job} {jobs : List Job}

@[simp] theorem suite_settle : (j.settle i fate).suite = j.suite := by
  unfold settle
  split <;> rfl

theorem fate_settle : (j.settle i fate).fate = if j.runsAt i then fate else j.fate := by
  unfold settle
  split <;> rfl

theorem map_suite_settle : (jobs.map (settle i fate)).map suite = jobs.map suite := by
  simp

theorem runsAt_settle (hfate : fate ≠ .running) :
    (j.settle i fate).runsAt k = (j.runsAt k && k != i) := by
  unfold settle
  split
  · rename_i hi
    have hworker : j.worker = i := by simpa using (Bool.and_eq_true_iff.mp hi).1
    have hsettled : runsAt k { j with fate := fate } = false := by simp [runsAt, hfate]
    rw [hsettled, eq_comm, Bool.and_eq_false_iff]
    by_cases hk : k = i
    · exact .inr (by simp [hk])
    · exact .inl (by simp [runsAt, hworker, Ne.symm hk])
  · rename_i hi
    by_cases hk : k = i
    · simp [hk, hi]
    · simp [hk]

/-- Settling the suite of one worker leaves what the others are running. -/
theorem filter_runsAt_settle (hfate : fate ≠ .running) :
    (jobs.map (settle i fate)).filter (runsAt k) =
      if k = i then [] else jobs.filter (runsAt k) := by
  induction jobs with
  | nil => simp
  | cons j jobs ih =>
      rw [List.map_cons, List.filter_cons, runsAt_settle hfate, ih]
      by_cases hk : k = i
      · simp [hk]
      · by_cases hj : j.runsAt k = true
        · have hother : j.runsAt i = false := by
            simp only [runsAt, Bool.and_eq_true, beq_iff_eq] at hj ⊢
            simp [hj.1, hk]
          simp [hk, hj, settle, hother]
        · simp [hk, hj]

theorem result?_of_runsAt (h : j.runsAt i = true) : j.result? = none := by
  have hfate : j.fate = .running := by simpa using (Bool.and_eq_true_iff.mp h).2
  simp [result?, hfate]

/-- A lost suite adds no result. -/
theorem filterMap_result?_settle_lost :
    (jobs.map (settle i .lost)).filterMap result? = jobs.filterMap result? := by
  have hsettle : result? ∘ settle i .lost = result? := by
    funext j
    by_cases hj : j.runsAt i = true
    · rw [Function.comp_apply, result?_of_runsAt hj]
      simp [settle, hj, result?]
    · simp [settle, hj]
  rw [List.filterMap_map, hsettle]

/-- A finished suite adds its result. -/
theorem filterMap_result?_settle_finished (r : SuiteResult) :
    ((jobs.map (settle i (.finished r))).filterMap result?).Perm
      (jobs.filterMap result? ++ (jobs.filter (runsAt i)).map fun _ => r) := by
  induction jobs with
  | nil => exact .nil
  | cons j jobs ih =>
      by_cases hj : j.runsAt i = true
      · have hsettled : (j.settle i (.finished r)).result? = some r := by
          simp [settle, hj, result?]
        simp only [List.map_cons, List.filterMap_cons, hsettled, result?_of_runsAt hj,
          List.filter_cons, hj, if_true]
        exact (ih.cons r).trans List.perm_middle.symm
      · have hsettled : j.settle i (.finished r) = j := if_neg hj
        simp only [List.map_cons, List.filterMap_cons, hsettled, List.filter_cons, hj]
        cases j.result? with
        | none => exact ih
        | some result => exact ih.cons result

end Job

/-- What becomes of the suite of a worker that stops running it in this phase. -/
def Phase.fate : Phase → Fate
  | running _ (.done (.value run)) => .finished run.result
  | _ => .lost

namespace Crew

/-- Enters a turn into a ledger: a worker begins to run a suite, or stops running
the one it has. -/
def enter (jobs : List Job) (t : Turn) : List Job :=
  match t.before.suite?, t.after.suite? with
  | none, some suite => jobs ++ [⟨suite, t.worker, .running⟩]
  | some _, none => jobs.map (Job.settle t.worker t.before.fate)
  | _, _ => jobs

/-- The suites that were taken in some turns, in the order in which they were
taken. -/
def ledger (turns : List Turn) : List Job := turns.foldl enter []

theorem ledger_snoc (turns : List Turn) (t : Turn) :
    ledger (turns ++ [t]) = enter (ledger turns) t := by
  simp [ledger]

/-- What the worker in some place is running. -/
def suiteAt? (c : Crew) (i : Nat) : Option Suite := c.workers[i]?.bind (·.phase.suite?)

/-- The ledger tells how every suite of the run stands. -/
structure Accounts (settings : PageSettings) (suites : List Suite) (c : Crew) (jobs : List Job) :
    Prop where
  handed : jobs.map Job.suite ++ c.desk.queue.suites = suites
  finished : c.desk.finished.Perm (jobs.filterMap Job.result?)
  running : ∀ i, jobs.filter (Job.runsAt i) = ((c.suiteAt? i).map (⟨·, i, .running⟩)).toList
  path : ∀ (i : Nat) (w : Worker), c.workers[i]? = some w → ∀ suite rest,
    w.phase = .running suite rest → ∃ steps, Program.Leads (suite.run settings) steps rest
  concerns : ∀ j ∈ jobs, ∀ r, j.fate = .finished r → r.Concerns j.suite

variable {settings : PageSettings} {suites : List Suite} {c : Crew} {jobs : List Job}
  {i : Nat} {w v : Worker} {d e : Desk}

/-! ## One turn -/

theorem suiteAt?_set (hw : c.workers[i]? = some w) (k : Nat) :
    suiteAt? ⟨e, c.workers.set i v⟩ k = if k = i then v.phase.suite? else c.suiteAt? k := by
  have hi : i < c.workers.length := (List.getElem?_eq_some_iff.mp hw).1
  unfold suiteAt?
  by_cases hk : k = i
  · subst hk
    simp [hi]
  · simp [List.getElem?_set_ne (Ne.symm hk), hk]

theorem suiteAt?_eq (hw : c.workers[i]? = some w) : c.suiteAt? i = w.phase.suite? := by
  simp [suiteAt?, hw]

/-- What holds of the worker in turn and of every other worker holds of all. -/
theorem forall_worker_set (hw : c.workers[i]? = some w) {P : Nat → Worker → Prop} (hv : P i v)
    (hothers : ∀ k u, k ≠ i → c.workers[k]? = some u → P k u) (k : Nat) (u : Worker)
    (hu : (c.workers.set i v)[k]? = some u) : P k u := by
  have hi : i < c.workers.length := (List.getElem?_eq_some_iff.mp hw).1
  by_cases hk : k = i
  · subst hk
    rw [List.getElem?_set_self hi] at hu
    cases hu
    exact hv
  · rw [List.getElem?_set_ne (Ne.symm hk)] at hu
    exact hothers k u hk hu

/-- The one job that a worker has in hand is that of the suite it is running. -/
theorem Accounts.runsAt_iff {suite : Suite} {j : Job} (h : Accounts settings suites c jobs)
    (hw : c.workers[i]? = some w) (hsuite : w.phase.suite? = some suite) :
    j ∈ jobs ∧ j.runsAt i = true ↔ j = ⟨suite, i, .running⟩ := by
  rw [← List.mem_filter, h.running, suiteAt?_eq hw, hsuite]
  exact List.mem_singleton

/-- A worker that goes on with what it was doing changes nothing in the ledger. -/
theorem enter_of_suite?_eq {t : Turn} (h : t.after.suite? = t.before.suite?) :
    enter jobs t = jobs := by
  unfold enter
  rw [h]
  cases t.before.suite? <;> rfl

/-- A worker that stops running its suite decides its fate. -/
theorem enter_of_stops {suite : Suite} {t : Turn} (hbefore : t.before.suite? = some suite)
    (hafter : t.after.suite? = none) :
    enter jobs t = jobs.map (Job.settle t.worker t.before.fate) := by
  unfold enter
  rw [hbefore, hafter]

/-- A turn in which the worker goes on with its suite, or with none. -/
theorem Accounts.keep (h : Accounts settings suites c jobs) (hw : c.workers[i]? = some w)
    (hqueue : e.queue = c.desk.queue) (hfinished : e.finished = c.desk.finished)
    (hsuite : v.phase.suite? = w.phase.suite?)
    (hv : ∀ suite rest, v.phase = .running suite rest →
      ∃ steps, Program.Leads (suite.run settings) steps rest) :
    Accounts settings suites ⟨e, c.workers.set i v⟩ jobs where
  handed := by
    change jobs.map Job.suite ++ e.queue.suites = suites
    rw [hqueue]
    exact h.handed
  finished := by
    change e.finished.Perm _
    rw [hfinished]
    exact h.finished
  running k := by
    rw [h.running k, suiteAt?_set hw]
    by_cases hk : k = i
    · rw [if_pos hk, hsuite, hk, suiteAt?_eq hw]
    · rw [if_neg hk]
  path := forall_worker_set hw hv fun k u _ => h.path k u
  concerns := h.concerns

/-- A turn in which the worker takes the first suite of the queue. -/
theorem Accounts.take {suite : Suite} {rest : List Suite} (h : Accounts settings suites c jobs)
    (hw : c.workers[i]? = some w) (hsuites : c.desk.queue.suites = suite :: rest)
    (hqueue : e.queue = ⟨rest⟩) (hfinished : e.finished = c.desk.finished)
    (hbefore : w.phase.suite? = none) (hafter : v.phase = .running suite (suite.run settings)) :
    Accounts settings suites ⟨e, c.workers.set i v⟩ (jobs ++ [⟨suite, i, .running⟩]) where
  handed := by
    change (jobs ++ [_]).map Job.suite ++ e.queue.suites = suites
    rw [hqueue, ← h.handed, hsuites]
    simp
  finished := by
    change e.finished.Perm _
    have hnone : [(⟨suite, i, .running⟩ : Job)].filterMap Job.result? = [] := rfl
    rw [hfinished, List.filterMap_append, hnone, List.append_nil]
    exact h.finished
  running k := by
    rw [List.filter_append, h.running k, suiteAt?_set hw]
    by_cases hk : k = i
    · rw [hk, suiteAt?_eq hw, hbefore, hafter]
      simp [Job.runsAt, Phase.suite?]
    · simp [Job.runsAt, hk, Ne.symm hk]
  path := by
    refine forall_worker_set hw (fun other more hphase => ?_) fun k u _ => h.path k u
    rw [hafter] at hphase
    cases hphase
    exact ⟨[], .nil _⟩
  concerns j hj r hr := by
    rcases List.mem_append.mp hj with hj | hj
    · exact h.concerns j hj r hr
    · rw [List.mem_singleton.mp hj] at hr
      cases hr

/-- A turn in which the worker stops running its suite. -/
theorem Accounts.settle {suite : Suite} {fate : Fate} (h : Accounts settings suites c jobs)
    (hw : c.workers[i]? = some w) (hfate : fate ≠ .running) (hqueue : e.queue = c.desk.queue)
    (hfinished : e.finished.Perm ((jobs.map (Job.settle i fate)).filterMap Job.result?))
    (hbefore : w.phase.suite? = some suite) (hafter : v.phase.suite? = none)
    (hconcerns : ∀ r, fate = .finished r → r.Concerns suite) :
    Accounts settings suites ⟨e, c.workers.set i v⟩ (jobs.map (Job.settle i fate)) where
  handed := by
    change (jobs.map (Job.settle i fate)).map Job.suite ++ e.queue.suites = suites
    rw [Job.map_suite_settle, hqueue]
    exact h.handed
  finished := hfinished
  running k := by
    rw [Job.filter_runsAt_settle hfate, suiteAt?_set hw]
    by_cases hk : k = i
    · rw [if_pos hk, if_pos hk, hafter]
      rfl
    · rw [if_neg hk, if_neg hk, h.running k]
  path := by
    refine forall_worker_set hw (fun other more hphase => ?_) fun k u _ => h.path k u
    rw [hphase] at hafter
    cases hafter
  concerns j' hj' r hr := by
    obtain ⟨j, hj, rfl⟩ := List.mem_map.mp hj'
    rw [Job.suite_settle]
    rw [Job.fate_settle] at hr
    split at hr
    · rename_i hruns
      rw [(h.runsAt_iff hw hbefore).mp ⟨hj, hruns⟩]
      exact hconcerns r hr
    · exact h.concerns j hj r hr

/-- Every turn keeps the accounts. -/
theorem Accounts.turn (h : Accounts settings suites c jobs) (hw : c.workers[i]? = some w)
    (hshift : Desk.Shift settings d w.phase e v.phase) (hqueue : d.queue = c.desk.queue)
    (hfinished : d.finished = c.desk.finished) :
    Accounts settings suites ⟨e, c.workers.set i v⟩ (enter jobs ⟨i, w.phase, v.phase⟩) := by
  have hpath := h.path i w
  -- the two phases become variables, so that each case of `hshift` fixes them
  generalize hp : w.phase = p at hshift hpath
  generalize hq : v.phase = q at hshift
  cases hshift with
  | quiet hequeue hefinished _ hphase =>
      have hsuite : q.suite? = p.suite? := by
        rcases hphase with rfl | ⟨hbefore, hafter⟩
        · rfl
        · rw [hbefore, hafter]
      rw [enter_of_suite?_eq hsuite]
      refine h.keep hw (hequeue.trans hqueue) (hefinished.trans hfinished)
        (by rw [hp, hq, hsuite]) ?_
      intro suite rest hrunning
      rw [hq] at hrunning
      rcases hphase with rfl | ⟨_, hafter⟩
      · exact hpath hw suite rest hrunning
      · rw [hrunning] at hafter
        cases hafter
  | @answers _ suite r next reply hequeue hefinished _ =>
      rw [enter_of_suite?_eq rfl]
      refine h.keep hw (hequeue.trans hqueue) (hefinished.trans hfinished) (by rw [hp, hq]; rfl) ?_
      intro other more hrunning
      rw [hq] at hrunning
      cases hrunning
      obtain ⟨steps, hsteps⟩ := hpath hw suite _ rfl
      exact ⟨_, hsteps.snoc reply⟩
  | takes hsuites hequeue hefinished =>
      rw [hqueue] at hsuites
      exact h.take hw hsuites hequeue (hefinished.trans hfinished) (by rw [hp]; rfl) hq
  | @finishes _ _ suite run hequeue hefinished _ hphase =>
      rw [enter_of_stops rfl hphase]
      refine h.settle hw (by simp [Phase.fate]) (hequeue.trans hqueue) ?_ (by rw [hp]; rfl)
        (by rw [hq, hphase]) ?_
      · refine List.Perm.trans ?_ (Job.filterMap_result?_settle_finished run.result).symm
        rw [hefinished, hfinished, h.running i, suiteAt?_eq hw, hp]
        exact h.finished.append_right _
      · -- the path of the suite ends here
        intro r hr
        cases hr
        obtain ⟨steps, hsteps⟩ := hpath hw suite _ rfl
        exact Suite.concerns_of_ends hsteps
  | @loses _ suite panic hequeue hefinished =>
      rw [enter_of_stops rfl rfl]
      refine h.settle hw (by simp [Phase.fate]) (hequeue.trans hqueue) ?_ (by rw [hp]; rfl)
        (by rw [hq]; rfl) (by simp [Phase.fate])
      change e.finished.Perm ((jobs.map (Job.settle i .lost)).filterMap Job.result?)
      rw [Job.filterMap_result?_settle_lost, hefinished, hfinished]
      exact h.finished

/-! ## Whole runs -/

section Runs

variable {store : Store} {site : Site} {startedAt : Moment} {workers : Nat} {turns : List Turn}

/-- Workers that have not begun are running nothing. -/
theorem suiteAt?_start (suites : List Suite) (store : Store) (site : Site) (startedAt : Moment)
    (workers i : Nat) : (start suites store site startedAt workers).suiteAt? i = none := by
  unfold suiteAt? start
  rw [Option.bind_eq_none_iff]
  intro w hw
  obtain ⟨k, _, rfl⟩ := List.mem_map.mp (List.mem_of_getElem? hw)
  rfl

theorem accounts_start :
    Accounts settings suites (start suites store site startedAt workers) [] where
  handed := rfl
  finished := .nil
  running i := by rw [suiteAt?_start]; rfl
  path i w hw suite rest hphase := by
    have hnone := suiteAt?_start suites store site startedAt workers i
    rw [suiteAt?_eq hw, hphase] at hnone
    cases hnone
  concerns := by simp

/-- At every moment of every run the ledger accounts for all suites. -/
theorem accounts_of_run (h : Run settings (start suites store site startedAt workers) turns c) :
    Accounts settings suites c (ledger turns) := by
  induction h with
  | nil => exact accounts_start
  | turn _ hw hlive _ hstep ih =>
      rw [ledger_snoc]
      exact ih.turn hw (Desk.does_of_step hlive hstep).shift rfl rfl
  | cancel _ ih => exact ⟨ih.handed, ih.finished, ih.running, ih.path, ih.concerns⟩

/-- When all workers have ended, no suite is being run. -/
theorem Accounts.fate_ne_running (h : Accounts settings suites c jobs) (hover : c.Over) :
    ∀ j ∈ jobs, j.fate ≠ .running := by
  intro j hj hrunning
  have hmem : j ∈ jobs.filter (Job.runsAt j.worker) :=
    List.mem_filter.mpr ⟨hj, by simp [Job.runsAt, hrunning]⟩
  have hnone : c.suiteAt? j.worker = none := by
    unfold suiteAt?
    rw [Option.bind_eq_none_iff]
    intro w hw
    rw [hover w (List.mem_of_getElem? hw)]
    rfl
  rw [h.running, hnone] at hmem
  cases hmem

end Runs

/-! ## Distinct names -/

/-- If names are distinct, a name stands for one job only. -/
theorem Accounts.eq_of_name (h : Accounts settings suites c jobs)
    (hnames : (suites.map Suite.name).Nodup) {j k : Job} (hj : j ∈ jobs) (hk : k ∈ jobs)
    (hname : j.suite.name = k.suite.name) : j = k := by
  rw [← h.handed, List.map_append, List.map_map] at hnames
  exact List.inj_on_of_nodup_map (List.nodup_append.mp hnames).1 hj hk hname

/-- If names are distinct, no job has the name of a suite in the queue. -/
theorem Accounts.name_ne_of_mem_queue (h : Accounts settings suites c jobs)
    (hnames : (suites.map Suite.name).Nodup) {j : Job} {s : Suite} (hj : j ∈ jobs)
    (hs : s ∈ c.desk.queue.suites) : j.suite.name ≠ s.name := by
  rw [← h.handed, List.map_append, List.map_map] at hnames
  exact (List.nodup_append.mp hnames).2.2 _ (List.mem_map_of_mem hj) _ (List.mem_map_of_mem hs)

/-- If names are distinct, two workers run suites of different names. -/
theorem Accounts.name_ne_of_runs (h : Accounts settings suites c jobs)
    (hnames : (suites.map Suite.name).Nodup) {k : Nat} {u : Worker} {suite other : Suite}
    (hw : c.workers[i]? = some w) (hsuite : w.phase.suite? = some suite)
    (hu : c.workers[k]? = some u) (hother : u.phase.suite? = some other) (hk : k ≠ i) :
    suite.name ≠ other.name := by
  intro hname
  have hjob := ((h.runsAt_iff hw hsuite).mpr rfl).1
  have hjob' := ((h.runsAt_iff hu hother).mpr rfl).1
  have hsame := congrArg Job.worker (h.eq_of_name hnames hjob hjob' hname)
  exact hk hsame.symm

/-- If names are distinct, no worker runs a suite of the name of a settled job. -/
theorem Accounts.name_ne_of_settled (h : Accounts settings suites c jobs)
    (hnames : (suites.map Suite.name).Nodup) {suite : Suite} {j : Job}
    (hw : c.workers[i]? = some w) (hsuite : w.phase.suite? = some suite) (hj : j ∈ jobs)
    (hfate : j.fate ≠ .running) : suite.name ≠ j.suite.name := by
  intro hname
  have hjob := ((h.runsAt_iff hw hsuite).mpr rfl).1
  rw [← h.eq_of_name hnames hjob hj hname] at hfate
  exact hfate rfl

end Crew

end BrowserSuite
