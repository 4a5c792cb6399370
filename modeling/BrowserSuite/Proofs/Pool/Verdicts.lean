import BrowserSuite.Proofs.Pool.Accounting
import BrowserSuite.Proofs.Report.Grouping

/-!
# The log tells what the report tells

Workers write to one log in any order, and the actions of a page may write lines
that look like verdicts.  If suites have distinct names, their messages can still be
told apart: `Told` says that a suite that is waiting has written nothing, that the
messages of a suite that is being run are those of its path, and that the messages of
a finished suite end with its verdict.

`verdict_ends_group` adds the lines of the suites that no worker finished, and
concludes that each suite has one group in the report's log and that this group ends
with the verdict of the suite's result.
-/

namespace BrowserSuite

namespace Crew

/-- What the log tells about the suites of a run. -/
structure Told (settings : PageSettings) (c : Crew) (jobs : List Job) : Prop where
  waiting : ∀ s ∈ c.desk.queue.suites, messagesOf s.name c.desk.log = []
  running : ∀ (i : Nat) (w : Worker), c.workers[i]? = some w → ∀ suite rest,
    w.phase = .running suite rest → ∃ steps, Program.Leads (suite.run settings) steps rest ∧
      messagesOf suite.name c.desk.log = Task.messages steps
  finished : ∀ j ∈ jobs, ∀ r, j.fate = .finished r →
    r.verdict <:+ messagesOf j.suite.name c.desk.log

variable {settings : PageSettings} {suites : List Suite} {c : Crew} {jobs : List Job}
  {i : Nat} {w v : Worker} {d e : Desk}

/-! ## One turn -/

/-- A turn in which nothing is written. -/
theorem Told.silent {jobs' : List Job} (h : Told settings c jobs) (hw : c.workers[i]? = some w)
    (hlog : e.log = c.desk.log) (hqueue : ∀ s ∈ e.queue.suites, s ∈ c.desk.queue.suites)
    (hself : ∀ suite rest, v.phase = .running suite rest →
      ∃ steps, Program.Leads (suite.run settings) steps rest ∧
        messagesOf suite.name c.desk.log = Task.messages steps)
    (hjobs : ∀ j ∈ jobs', ∀ r, j.fate = .finished r →
      r.verdict <:+ messagesOf j.suite.name c.desk.log) :
    Told settings ⟨e, c.workers.set i v⟩ jobs' := by
  constructor <;> simp only [hlog]
  · exact fun s hs => h.waiting s (hqueue s hs)
  · exact forall_worker_set hw hself fun k u _ => h.running k u
  · exact hjobs

/-- A turn in which a worker's request is answered, and its message written if it has one. -/
theorem Told.answer {suite : Suite} {r : Effect Handle} {next : r.Reply Handle → _}
    {reply : r.Reply Handle} {time : Moment} (h : Told settings c jobs)
    (haccounts : Accounts settings suites c jobs) (hnames : (suites.map Suite.name).Nodup)
    (hw : c.workers[i]? = some w) (hbefore : w.phase = .running suite (.ask r next))
    (hafter : v.phase = .running suite (next reply)) (hqueue : e.queue = c.desk.queue)
    (hlog : e.log =
      c.desk.log ++ (Task.Step.message? ⟨r, reply⟩).toList.map (⟨time, suite.name, ·⟩)) :
    Told settings ⟨e, c.workers.set i v⟩ jobs := by
  have hsuite : w.phase.suite? = some suite := by rw [hbefore]; rfl
  have hjob := ((haccounts.runsAt_iff hw hsuite).mpr rfl).1
  -- names are distinct, so no other suite is concerned
  constructor <;> simp only [hlog]
  · intro s hs
    rw [hqueue] at hs
    rw [messagesOf_append_map_of_ne (haccounts.name_ne_of_mem_queue hnames hjob hs)]
    exact h.waiting s hs
  · refine forall_worker_set hw ?_ ?_
    · intro other rest hphase
      rw [hafter] at hphase
      cases hphase
      obtain ⟨steps, hleads, htold⟩ := h.running i w hw suite _ hbefore
      refine ⟨_, hleads.snoc reply, ?_⟩
      rw [messagesOf_append_map_self, htold]
      simp
    · intro k u hk hu other rest hphase
      have hother : u.phase.suite? = some other := by rw [hphase]; rfl
      rw [messagesOf_append_map_of_ne
        (haccounts.name_ne_of_runs hnames hw hsuite hu hother hk)]
      exact h.running k u hu other rest hphase
  · intro j hj r hfate
    rw [messagesOf_append_map_of_ne
      (haccounts.name_ne_of_settled hnames hw hsuite hj (by simp [hfate]))]
    exact h.finished j hj r hfate

/-- A turn in which a worker stops running its suite. -/
theorem Told.settle {suite : Suite} {fate : Fate} (h : Told settings c jobs)
    (haccounts : Accounts settings suites c jobs) (hw : c.workers[i]? = some w)
    (hbefore : w.phase.suite? = some suite) (hafter : v.phase.suite? = none)
    (hqueue : e.queue = c.desk.queue) (hlog : e.log = c.desk.log)
    (hfate : ∀ r, fate = .finished r → r.verdict <:+ messagesOf suite.name c.desk.log) :
    Told settings ⟨e, c.workers.set i v⟩ (jobs.map (Job.settle i fate)) := by
  refine h.silent hw hlog (by simp [hqueue]) ?_ ?_
  · intro other rest hphase
    rw [hphase] at hafter
    cases hafter
  · intro j' hj' r hr
    obtain ⟨j, hj, rfl⟩ := List.mem_map.mp hj'
    rw [Job.suite_settle]
    rw [Job.fate_settle] at hr
    split at hr
    · rename_i hruns
      rw [(haccounts.runsAt_iff hw hbefore).mp ⟨hj, hruns⟩]
      exact hfate r hr
    · exact h.finished j hj r hr

/-- Every turn keeps the log in step with the ledger. -/
theorem Told.turn (h : Told settings c jobs) (haccounts : Accounts settings suites c jobs)
    (hnames : (suites.map Suite.name).Nodup) (hw : c.workers[i]? = some w)
    (hshift : Desk.Shift settings d w.phase e v.phase) (hqueue : d.queue = c.desk.queue)
    (hlog : d.log = c.desk.log) :
    Told settings ⟨e, c.workers.set i v⟩ (enter jobs ⟨i, w.phase, v.phase⟩) := by
  have hrunning := h.running i w hw
  generalize hp : w.phase = p at hshift hrunning
  generalize hq : v.phase = q at hshift
  cases hshift with
  | quiet hequeue _ helog hphase =>
      have hsuite : q.suite? = p.suite? := by
        rcases hphase with rfl | ⟨hbefore, hafter⟩
        · rfl
        · rw [hbefore, hafter]
      rw [enter_of_suite?_eq hsuite]
      refine h.silent hw (helog.trans hlog) (by simp [hequeue, hqueue]) ?_ h.finished
      intro suite rest hrun
      rw [hq] at hrun
      rcases hphase with rfl | ⟨_, hafter⟩
      · exact hrunning suite rest hrun
      · rw [hrun] at hafter
        cases hafter
  | answers reply hequeue _ helog =>
      rw [enter_of_suite?_eq rfl]
      exact h.answer haccounts hnames hw hp hq (hequeue.trans hqueue) (hlog ▸ helog)
  | @takes _ suite rest hsuites hequeue _ helog =>
      rw [hqueue] at hsuites
      refine h.silent hw (helog.trans hlog) (by simp_all) ?_ ?_
      · intro other more hrun
        rw [hq] at hrun
        cases hrun
        exact ⟨[], .nil _, h.waiting suite (by simp [hsuites])⟩
      · intro j hj r hfate
        rcases List.mem_append.mp hj with hj | hj
        · exact h.finished j hj r hfate
        · rw [List.mem_singleton.mp hj] at hfate
          cases hfate
  | @finishes _ _ suite run hequeue _ helog hphase =>
      rw [enter_of_stops rfl hphase]
      refine h.settle haccounts hw (by rw [hp]; rfl) (by rw [hq, hphase]) (hequeue.trans hqueue)
        (helog.trans hlog) fun r hr => ?_
      cases hr
      obtain ⟨steps, hleads, hmessages⟩ := hrunning suite _ rfl
      rw [hmessages]
      exact Suite.verdict_of_ends hleads
  | @loses _ suite panic hequeue _ helog =>
      rw [enter_of_stops rfl rfl]
      exact h.settle haccounts hw (by rw [hp]; rfl) (by rw [hq]; rfl) (hequeue.trans hqueue)
        (helog.trans hlog) (by simp [Phase.fate])

/-! ## Suites that no worker finished -/

theorem messagesOf_notRunLines (time : Moment) (s : Suite) (reason name : String) :
    messagesOf name (notRunLines time s reason) =
      if s.name = name then (SuiteResult.notRun s reason).verdict else [] :=
  messagesOf_map_mk time s.name name (SuiteResult.notRun s reason).verdict

/-- Nothing is written for a suite that is not among those that are declared. -/
theorem messagesOf_declared_of_ne (time : Moment) (reason : String) {declared : List Suite}
    {name : String} (h : ∀ s ∈ declared, s.name ≠ name) :
    messagesOf name (declared.flatMap (notRunLines time · reason)) = [] := by
  rw [messagesOf_flatMap, List.flatMap_eq_nil_iff]
  intro s hs
  rw [messagesOf_notRunLines, if_neg (h s hs)]

/-- For each suite that is declared not to have been run, its verdict is written. -/
theorem messagesOf_declared (time : Moment) (reason : String) {declared : List Suite}
    (hnames : (declared.map Suite.name).Nodup) {s : Suite} (hs : s ∈ declared) :
    messagesOf s.name (declared.flatMap (notRunLines time · reason)) =
      (SuiteResult.notRun s reason).verdict := by
  induction declared with
  | nil => cases hs
  | cons t declared ih =>
      obtain ⟨hfresh, hrest⟩ := List.nodup_cons.mp hnames
      rw [List.flatMap_cons, messagesOf_append, messagesOf_notRunLines]
      rcases List.mem_cons.mp hs with rfl | hs
      · rw [if_pos rfl, messagesOf_declared_of_ne, List.append_nil]
        exact fun t ht hname => hfresh (List.mem_map.mpr ⟨t, ht, hname⟩)
      · rw [if_neg fun hname => hfresh (List.mem_map.mpr ⟨s, hs, hname.symm⟩), List.nil_append]
        exact ih hrest hs

/-- A suite of which something is known is not declared crashed. -/
theorem name_ne_of_mem_crashed {r : SuiteResult} (hr : r ∈ c.known) :
    ∀ s ∈ c.crashed suites, s.name ≠ r.name := by
  intro s hs hname
  have hunknown : ¬c.knows s.name = true := by simpa [knows] using (List.mem_filter.mp hs).2
  exact hunknown (knows_iff.mpr ⟨r, hr, hname.symm⟩)

/-- The messages of a suite end with the verdict of its result. -/
theorem Told.verdict_entries (h : Told settings c jobs)
    (haccounts : Accounts settings suites c jobs) (hnames : (suites.map Suite.name).Nodup)
    {r : SuiteResult} (hr : r ∈ c.results suites) :
    r.verdict <:+ messagesOf r.name (c.entries suites) := by
  have hleft : (c.left.map Suite.name).Nodup := by
    refine hnames.sublist (List.Sublist.map _ ?_)
    rw [← haccounts.handed]
    exact List.sublist_append_right ..
  have hcrashed : ((c.crashed suites).map Suite.name).Nodup :=
    hnames.sublist (List.Sublist.map _ List.filter_sublist)
  rw [entries, messagesOf_append, messagesOf_append]
  rcases List.mem_append.mp hr with hknown | hr
  · rw [messagesOf_declared_of_ne _ _ (name_ne_of_mem_crashed hknown), List.append_nil]
    rcases List.mem_append.mp hknown with hr | hr
    · -- a worker finished the suite
      obtain ⟨j, hj, hfate⟩ := haccounts.mem_finished_iff.mp hr
      rw [(haccounts.concerns j hj r hfate).name, messagesOf_declared_of_ne, List.append_nil]
      · exact h.finished j hj r hfate
      · exact fun s hs => (haccounts.name_ne_of_mem_queue hnames hj hs).symm
    · -- no worker took it
      obtain ⟨s, hs, rfl⟩ := List.mem_map.mp hr
      rw [← messagesOf_declared _ _ hleft hs]
      exact List.suffix_append ..
  · -- its worker died
    obtain ⟨s, hs, rfl⟩ := List.mem_map.mp hr
    rw [← messagesOf_declared _ _ hcrashed hs]
    exact List.suffix_append ..

/-! ## Whole runs -/

section Runs

variable {threads : Nat} {store : Store} {site : Site} {startedAt : Moment} {turns : List Turn}

theorem told_of_run {workers : Nat} (hnames : (suites.map Suite.name).Nodup)
    (h : Run settings (start suites store site startedAt workers) turns c) :
    Told settings c (ledger turns) := by
  induction h with
  | nil =>
      refine ⟨fun _ _ => rfl, fun i w hw suite rest hphase => ?_, by simp [ledger]⟩
      have hnone := suiteAt?_start suites store site startedAt workers i
      rw [suiteAt?_eq hw, hphase] at hnone
      cases hnone
  | turn hrun hw hlive _ hstep ih =>
      rw [ledger_snoc]
      exact ih.turn (accounts_of_run hrun) hnames hw (Desk.does_of_step hlive hstep).shift rfl rfl
  | cancel _ ih => exact ⟨ih.waiting, ih.running, ih.finished⟩

theorem verdict_ne_nil (r : SuiteResult) : r.verdict ≠ [] := by
  unfold SuiteResult.verdict
  split <;> simp

/-- If names are distinct, every run of the workers can be brought to an end, and at
its end every suite has a result in the report and exactly one group in the report's
log, whose last messages are the verdict of that result. -/
theorem verdict_ends_group (hnames : (suites.map Suite.name).Nodup)
    (hrun : Run settings (start suites store site startedAt (workerCount threads suites.length))
      turns c) :
    (∃ more d, Run settings (start suites store site startedAt (workerCount threads suites.length))
        (turns ++ more) d ∧ d.Over) ∧
      (c.Over → ∀ s ∈ suites, ∃ group,
        groupsOf s.name (c.report suites).log = [(s.name, group)] ∧
          (∃ r ∈ (c.report suites).suites, r.name = s.name) ∧
          ∀ r ∈ (c.report suites).suites, r.name = s.name →
            r.verdict <:+ group.map LogEntry.message) := by
  constructor
  · exact hrun.ends
  · intro hover s hs
    have haccounts := accounts_of_run hrun
    have htold := told_of_run hnames hrun
    have hverdict : ∀ r ∈ (c.report suites).suites, r.name = s.name →
        r.verdict <:+ messagesOf s.name (c.entries suites) := by
      intro r hr hname
      rw [← hname]
      exact htold.verdict_entries haccounts hnames (List.mem_mergeSort.mp hr)
    have hresults := outline_report hnames
      (haccounts.outline_results_perm hover (haccounts.unshared_of_nodup hnames))
    obtain ⟨r, hr, houtline⟩ := List.mem_map.mp (hresults ▸ List.mem_map_of_mem hs)
    have hname : r.name = s.name := congrArg Prod.fst houtline
    refine ⟨entriesOf s.name (c.entries suites), ?_, ⟨r, hr, hname⟩, hverdict⟩
    rw [report, groupsOf_grouped, if_neg]
    intro hnil
    have hsuffix := hverdict r hr hname
    rw [messagesOf, hnil] at hsuffix
    exact verdict_ne_nil r (List.suffix_nil.mp hsuffix)

/-- Two suites, of which the first one writes a line that looks like a verdict. -/
def mockers : List Suite :=
  [⟨"a", [⟨"p", [⟨"log", ["X Suite Failed: a"], 1⟩]⟩]⟩, ⟨"b", []⟩]

theorem verdict_ends_group_mockers :
    let c := runSuites ⟨0, 0, .standard⟩ 2 mockers .empty (.start .blank none 0) ⟨0, 0⟩
    let report := c.report mockers
    ∃ group, groupsOf "a" report.log = [("a", group)] ∧
      ∃ r ∈ report.suites, r.name = "a" ∧ r.verdict <:+ group.map LogEntry.message := by
  obtain ⟨turns, hrun, hover⟩ :=
    run_runSuites ⟨0, 0, .standard⟩ 2 mockers .empty (.start .blank none 0) ⟨0, 0⟩
  obtain ⟨group, hgroup, ⟨r, hr, hname⟩, hverdict⟩ :=
    (verdict_ends_group (by decide) hrun).2 hover _ (.head _)
  exact ⟨group, hgroup, r, hr, hname, hverdict r hr hname⟩

end Runs

end Crew

end BrowserSuite
