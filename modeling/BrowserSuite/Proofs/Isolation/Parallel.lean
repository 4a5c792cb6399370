import BrowserSuite.Proofs.Isolation.Suites
import BrowserSuite.Proofs.Pool.Cancellation
import BrowserSuite.Proofs.Pool.Opening
import BrowserSuite.Proofs.Pool.Verdicts

/-!
# A parallel run agrees with the sequential one

Which worker takes a suite, and what other suites have left in that worker's store by then,
depends on time.  For confined suites it does not matter: `Isolated` says that the stores
differ from the caller's only in variables that suites write, that what a worker still has
to do of its suite is what any worker would have to do, and that finished suites have come
to their deeds.

Every turn keeps that (`isolated_of_run`), as long as the run is not cancelled and no session
is refused.  So the report of a run tells of the deeds and of nothing else
(`Isolated.report`): each suite is reported as it goes alone, and two runs of the same suites
with the same store are reported alike (`parallel_agrees`).
-/

namespace BrowserSuite

namespace Crew

/-- The suites of a run come to their deeds, whatever happens next to them. -/
structure Isolated (suites : List Suite) (store : Store) (deed : Suite → Deed) (c : Crew)
    (jobs : List Job) : Prop where
  stores : ∀ (i : Nat) (w : Worker), c.workers[i]? = some w →
    w.store.AgreeOff (WrittenBy suites) store
  drained : ∀ (i : Nat) (w : Worker), c.workers[i]? = some w →
    w.phase = .closing ∨ w.phase = .ended → c.desk.queue.suites = []
  running : ∀ (i : Nat) (w : Worker), c.workers[i]? = some w → ∀ suite rest,
    w.phase = .running suite rest → ∃ lines,
      messagesOf suite.name c.desk.log ++ lines = (deed suite).lines ∧
        Goes (WrittenBy suites) ((deed suite).Ends suite) w.store lines rest
  finished : ∀ j ∈ jobs, ∀ r, j.fate = .finished r →
    r.outcome = (deed j.suite).outcome ∧ r.pages = (deed j.suite).pages ∧
      messagesOf j.suite.name c.desk.log = (deed j.suite).lines
  kept : ∀ j ∈ jobs, j.fate ≠ .lost

variable {settings : PageSettings} {suites : List Suite} {store : Store} {deed : Suite → Deed}
  {c : Crew} {jobs : List Job} {i : Nat} {w v : Worker} {d e : Desk} {suite : Suite}

/-! ## One turn -/

/-- A turn of a worker that has no suite before it and none after it. -/
theorem Isolated.rest (h : Isolated suites store deed c jobs) (hw : c.workers[i]? = some w)
    (hstore : v.store = w.store) (hafter : v.phase.suite? = none)
    (hqueue : e.queue = c.desk.queue) (hlog : e.log = c.desk.log)
    (hdrained : v.phase = .closing ∨ v.phase = .ended → c.desk.queue.suites = []) :
    Isolated suites store deed ⟨e, c.workers.set i v⟩ jobs := by
  constructor <;> try simp only [hqueue, hlog]
  · exact forall_worker_set hw (hstore ▸ h.stores i w hw) fun k u _ => h.stores k u
  · exact forall_worker_set hw hdrained fun k u _ => h.drained k u
  · refine forall_worker_set hw (fun suite rest hphase => ?_) fun k u _ => h.running k u
    rw [hphase] at hafter
    cases hafter
  · exact h.finished
  · exact h.kept

/-- A turn in which a worker takes a suite. -/
theorem Isolated.take {rest : List Suite} (h : Isolated suites store deed c jobs)
    (hw : c.workers[i]? = some w) (hstore : v.store = w.store)
    (hafter : v.phase = .running suite (suite.run settings))
    (hsuites : c.desk.queue.suites = suite :: rest) (hqueue : e.queue = ⟨rest⟩)
    (hlog : e.log = c.desk.log) (hnew : messagesOf suite.name c.desk.log = [])
    (hgoes : Goes (WrittenBy suites) ((deed suite).Ends suite) w.store (deed suite).lines
      (suite.run settings)) :
    Isolated suites store deed ⟨e, c.workers.set i v⟩ (jobs ++ [⟨suite, i, .running⟩]) := by
  constructor <;> try simp only [hqueue, hlog]
  · exact forall_worker_set hw (hstore ▸ h.stores i w hw) fun k u _ => h.stores k u
  · -- a worker that had nothing more to take would have left this suite in the queue
    refine forall_worker_set hw (by simp [hafter]) fun k u _ hu hends => ?_
    have hnil := h.drained k u hu hends
    rw [hsuites] at hnil
    cases hnil
  · refine forall_worker_set hw (fun other more hphase => ?_) fun k u _ => h.running k u
    rw [hafter] at hphase
    cases hphase
    rw [hnew, hstore]
    exact ⟨_, rfl, hgoes⟩
  · intro j hj r hfate
    rcases List.mem_append.mp hj with hj | hj
    · exact h.finished j hj r hfate
    · rw [List.mem_singleton.mp hj] at hfate
      cases hfate
  · intro j hj
    rcases List.mem_append.mp hj with hj | hj
    · exact h.kept j hj
    · rw [List.mem_singleton.mp hj]
      nofun

/-- A turn in which a worker goes on with its suite. -/
theorem Isolated.answer {rest : Task Handle Empty SuiteRun} {written lines : List String}
    {time : Moment} (h : Isolated suites store deed c jobs)
    (haccounts : Accounts settings suites c jobs) (hnames : (suites.map Suite.name).Nodup)
    (hw : c.workers[i]? = some w) (hbefore : w.phase.suite? = some suite)
    (hafter : v.phase = .running suite rest)
    (hstore : v.store.AgreeOff (WrittenBy suites) w.store) (hqueue : e.queue = c.desk.queue)
    (hlog : e.log = c.desk.log ++ written.map (⟨time, suite.name, ·⟩))
    (hlines : messagesOf suite.name c.desk.log ++ (written ++ lines) = (deed suite).lines)
    (hgoes : Goes (WrittenBy suites) ((deed suite).Ends suite) v.store lines rest) :
    Isolated suites store deed ⟨e, c.workers.set i v⟩ jobs := by
  -- names are distinct, so no other suite is concerned
  constructor <;> try simp only [hqueue, hlog]
  · exact forall_worker_set hw (hstore.trans (h.stores i w hw)) fun k u _ => h.stores k u
  · exact forall_worker_set hw (by simp [hafter]) fun k u _ => h.drained k u
  · refine forall_worker_set hw ?_ ?_
    · intro other more hphase
      rw [hafter] at hphase
      cases hphase
      refine ⟨lines, ?_, hgoes⟩
      rw [messagesOf_append_map_self, List.append_assoc, hlines]
    · intro k u hk hu other more hphase
      have hother : u.phase.suite? = some other := by rw [hphase]; rfl
      rw [messagesOf_append_map_of_ne
        (haccounts.name_ne_of_runs hnames hw hbefore hu hother hk)]
      exact h.running k u hu other more hphase
  · intro j hj r hfate
    rw [messagesOf_append_map_of_ne
      (haccounts.name_ne_of_settled hnames hw hbefore hj (by simp [hfate]))]
    exact h.finished j hj r hfate
  · exact h.kept

/-- A turn in which a worker finishes its suite. -/
theorem Isolated.finish {run : SuiteRun} (h : Isolated suites store deed c jobs)
    (haccounts : Accounts settings suites c jobs) (hw : c.workers[i]? = some w)
    (hbefore : w.phase = .running suite (.done (.value run))) (hstore : v.store = w.store)
    (hafter : v.phase = .idle) (hqueue : e.queue = c.desk.queue) (hlog : e.log = c.desk.log)
    (hends : (deed suite).Ends suite (.value run) w.store)
    (hlines : messagesOf suite.name c.desk.log = (deed suite).lines) :
    Isolated suites store deed ⟨e, c.workers.set i v⟩
      (jobs.map (Job.settle i (.finished run.result))) := by
  have hrest := h.rest hw hstore (by rw [hafter]; rfl) hqueue hlog (by simp [hafter])
  refine ⟨hrest.stores, hrest.drained, hrest.running, fun j' hj' r hr => ?_, fun j' hj' => ?_⟩
  · obtain ⟨j, hj, rfl⟩ := List.mem_map.mp hj'
    rw [Job.suite_settle]
    rw [Job.fate_settle] at hr
    split at hr
    · next hruns =>
        rw [(haccounts.runsAt_iff hw (by rw [hbefore]; rfl)).mp ⟨hj, hruns⟩]
        cases hr
        obtain ⟨ms, hvalue⟩ := hends
        cases hvalue
        exact ⟨rfl, rfl, (congrArg _ hlog).trans hlines⟩
    · exact hrest.finished j hj r hr
  · obtain ⟨j, hj, rfl⟩ := List.mem_map.mp hj'
    rw [Job.fate_settle]
    split
    · nofun
    · exact h.kept j hj

/-- A turn of a worker that has no suite. -/
theorem Isolated.turn_of_resting (h : Isolated suites store deed c jobs)
    (haccounts : Accounts settings suites c jobs)
    (hwaiting : ∀ s ∈ c.desk.queue.suites, messagesOf s.name c.desk.log = [])
    (hdeed : Deeds settings suites store deed) (hw : c.workers[i]? = some w) (hdoes : Desk.Does settings d w e v)
    (hqueue : d.queue = c.desk.queue) (hlog : d.log = c.desk.log)
    (hgo : d.site.cancelled = false) (hopen : w.phase = .opening → v.phase ≠ .ended)
    (hbefore : w.phase.suite? = none) :
    Isolated suites store deed ⟨e, c.workers.set i v⟩ (enter jobs ⟨i, w.phase, v.phase⟩) := by
  cases hdoes with
  | waits =>
      rw [enter_of_suite?_eq rfl]
      exact h.rest hw rfl hbefore hqueue hlog (h.drained i w hw)
  | opens hphase =>
      rw [enter_of_suite?_eq (by rw [hbefore]; rfl)]
      exact h.rest hw rfl rfl hqueue hlog (by simp)
  | refused hphase => exact absurd rfl (hopen hphase)
  | stops hphase hend =>
      rw [enter_of_suite?_eq (by rw [hbefore]; rfl)]
      refine h.rest hw rfl rfl hqueue hlog fun _ => ?_
      rw [← hqueue]
      exact hend.resolve_left (by simp [hgo])
  | takes hphase _ hsuites =>
      rw [hphase]
      rw [hqueue] at hsuites
      have hmem := List.mem_of_mem_head? (congrArg List.head? hsuites)
      exact h.take hw rfl rfl hsuites rfl hlog (hwaiting _ hmem)
        (hdeed _ (haccounts.handed ▸ List.mem_append_right _ hmem) w.store (h.stores i w hw))
  | closes hphase =>
      rw [enter_of_suite?_eq (by rw [hbefore]; rfl)]
      exact h.rest hw rfl rfl hqueue hlog fun _ => h.drained i w hw (.inl hphase)
  | calls hphase | sleeps hphase | sleepsUntil hphase | writes hphase | asks hphase
  | finishes hphase | dies hphase =>
      rw [hphase] at hbefore
      cases hbefore

/-- A turn of a worker that is running a suite. -/
theorem Isolated.turn_of_running {rest : Task Handle Empty SuiteRun}
    (h : Isolated suites store deed c jobs) (haccounts : Accounts settings suites c jobs)
    (hnames : (suites.map Suite.name).Nodup) (hw : c.workers[i]? = some w)
    (hdoes : Desk.Does settings d w e v) (hqueue : d.queue = c.desk.queue)
    (hlog : d.log = c.desk.log) (hgo : d.site.cancelled = false)
    (hbefore : w.phase = .running suite rest) :
    Isolated suites store deed ⟨e, c.workers.set i v⟩ (enter jobs ⟨i, w.phase, v.phase⟩) := by
  obtain ⟨lines, hlines, hgoes⟩ := h.running i w hw suite rest hbefore
  cases rest with
  | ask r next =>
      obtain ⟨reply, world, hanswer, hafter, hstore, hequeue, helog⟩ :=
        hdoes.answer hbefore hgoes.ne_call
      obtain ⟨more, rfl, hmore, hagree⟩ := hgoes.answer hgo hanswer
      rw [enter_of_suite?_eq (by rw [hbefore, hafter]; rfl)]
      rw [← hstore] at hmore hagree
      exact h.answer haccounts hnames hw (by rw [hbefore]; rfl) hafter hagree
        (hequeue.trans hqueue) (hlog ▸ helog) hlines hmore
  | done b =>
      obtain ⟨rfl, hends⟩ := hgoes.of_done
      obtain ⟨ms, rfl⟩ := id hends
      obtain ⟨hafter, hstore, hequeue, helog⟩ := hdoes.finish hbefore
      rw [enter_of_stops (by rw [hbefore]; rfl) (by rw [hafter]; rfl), hbefore]
      exact h.finish haccounts hw hbefore hstore hafter (hequeue.trans hqueue)
        (helog.trans hlog) hends (by simpa using hlines)

/-! ## Whole runs -/

section Runs

variable {site : Site} {startedAt : Moment} {workers : Nat} {turns : List Turn}

theorem isolated_start :
    Isolated suites store deed (start suites store site startedAt workers) [] := by
  have hworker : ∀ (i : Nat) (w : Worker),
      (start suites store site startedAt workers).workers[i]? = some w →
        w.phase = .opening ∧ w.store = store := by
    intro i w hw
    obtain ⟨k, -, rfl⟩ := List.mem_map.mp (List.mem_of_getElem? hw)
    exact ⟨rfl, rfl⟩
  constructor
  · exact fun i w hw => (hworker i w hw).2 ▸ .refl _
  · exact fun i w hw hends => by simp [(hworker i w hw).1] at hends
  · exact fun i w hw suite rest hphase => by simp [(hworker i w hw).1] at hphase
  · exact nofun
  · exact nofun

/-- Suites are isolated at every moment of a run that is not cancelled and in which no session
was refused. -/
theorem isolated_of_run (hnames : (suites.map Suite.name).Nodup)
    (hdeed : Deeds settings suites store deed)
    (h : Run settings (start suites store site startedAt workers) turns c)
    (hgo : c.desk.site.cancelled = false) (hopen : AllOpen turns) :
    Isolated suites store deed c (ledger turns) := by
  induction h with
  | nil => exact isolated_start
  | @turn turns c i time w v e hrun hw hlive _ hstep ih =>
      have hdoes := Desk.does_of_step hlive hstep
      have hbefore : (c.desk.site.advance time).cancelled = false := by
        refine Bool.eq_false_iff.mpr fun hcancelled => ?_
        have hafter := (hdoes.windsDown hcancelled).2.1
        rw [hgo] at hafter
        cases hafter
      have hearlier : c.desk.site.cancelled = false := (Bool.or_eq_false_iff.mp hbefore).1
      obtain ⟨hopen, hturn⟩ := List.forall_mem_append.mp hopen
      have hisolated := ih hearlier hopen
      have haccounts := accounts_of_run hrun
      rw [ledger_snoc]
      cases hsuite : w.phase.suite? with
      | none =>
          exact hisolated.turn_of_resting haccounts (told_of_run hnames hrun).waiting hdeed hw
            hdoes rfl rfl hbefore (List.forall_mem_singleton.mp hturn) hsuite
      | some suite =>
          obtain ⟨rest, hphase⟩ := Phase.running_of_suite? hsuite
          exact hisolated.turn_of_running haccounts hnames hw hdoes rfl rfl hbefore hphase
  | cancel _ ih => cases hgo

end Runs

/-! ## The report -/

/-- What a result says, apart from the time that the suite took. -/
def shown (r : SuiteResult) : String × Outcome × List PageRecord := (r.name, r.outcome, r.pages)

/-- What is written under a suite's name in the report's log. -/
def written (r : Report) (name : String) : List String :=
  (groupsOf name r.log).flatMap fun g => g.2.map LogEntry.message

/-- A suite is reported as it goes alone, with the caller's store and a log of its own. -/
def ReportedAsAlone (settings : PageSettings) (store : Store) (s : Suite) (report : Report) :
    Prop :=
  ∃ run w, World.run ⟨.start .blank none 0, store, []⟩ (s.run settings) = (.value run, w) ∧
    (∃ r ∈ report.suites, shown r = shown run.result) ∧ written report s.name = w.log

/-- A worker that has ended has left no suite in the queue. -/
theorem Isolated.queue_nil (h : Isolated suites store deed c jobs)
    (haccounts : Accounts settings suites c jobs) (hover : c.Over)
    (hworkers : suites ≠ [] → c.workers ≠ []) : c.desk.queue.suites = [] := by
  by_cases hnone : suites = []
  · have hhanded := haccounts.handed
    rw [hnone] at hhanded
    exact (List.append_eq_nil_iff.mp hhanded).2
  · obtain ⟨w, hw⟩ := List.exists_mem_of_ne_nil _ (hworkers hnone)
    obtain ⟨i, hi⟩ := List.mem_iff_getElem?.mp hw
    exact h.drained i w hi (.inr (hover w hw))

/-- Every suite of the run was finished. -/
theorem Isolated.finished_of_mem (h : Isolated suites store deed c jobs)
    (haccounts : Accounts settings suites c jobs) (hover : c.Over)
    (hqueue : c.desk.queue.suites = []) {s : Suite} (hs : s ∈ suites) :
    ∃ j ∈ jobs, j.suite = s ∧ ∃ r, j.fate = .finished r := by
  rw [← haccounts.handed, hqueue, List.append_nil] at hs
  obtain ⟨j, hj, rfl⟩ := List.mem_map.mp hs
  refine ⟨j, hj, rfl, ?_⟩
  cases hfate : j.fate with
  | running => exact absurd hfate (haccounts.fate_ne_running hover j hj)
  | finished r => exact ⟨r, rfl⟩
  | lost => exact absurd hfate (h.kept j hj)

/-- Results in the order of suites of distinct names, each about one of the suites, are
about these suites one by one. -/
theorem map_shown_eq {results : List SuiteResult} {f : Suite → String × Outcome × List PageRecord}
    (hnames : (suites.map Suite.name).Nodup) (hf : ∀ s, (f s).1 = s.name)
    (horder : results.map SuiteResult.name = suites.map Suite.name)
    (hresults : ∀ r ∈ results, ∃ s ∈ suites, shown r = f s) :
    results.map shown = suites.map f := by
  have hlength : results.length = suites.length := by
    simpa using congrArg List.length horder
  refine List.ext_getElem (by simpa using hlength) fun i hi hi' => ?_
  rw [List.length_map] at hi hi'
  rw [List.getElem_map, List.getElem_map]
  obtain ⟨s, hs, hshown⟩ := hresults results[i] (List.getElem_mem hi)
  have hname : s.name = suites[i].name := by
    have hat := List.getElem_of_eq horder (by simpa using hi)
    rw [List.getElem_map, List.getElem_map] at hat
    rw [← hat, ← hf s, ← hshown]
    rfl
  rw [hshown, List.inj_on_of_nodup_map hnames hs (List.getElem_mem hi') hname]

/-- The report of an isolated run tells of the deeds of its suites. -/
theorem Isolated.report (h : Isolated suites store deed c jobs)
    (haccounts : Accounts settings suites c jobs) (hnames : (suites.map Suite.name).Nodup)
    (hover : c.Over) (hworkers : suites ≠ [] → c.workers ≠ []) :
    (c.report suites).suites.map shown =
        suites.map (fun s => (s.name, (deed s).outcome, (deed s).pages)) ∧
      ∀ s ∈ suites, written (c.report suites) s.name = (deed s).lines := by
  have hqueue := h.queue_nil haccounts hover hworkers
  have hunshared := haccounts.unshared_of_nodup hnames
  have hcrashed : c.crashed suites = [] := by
    rw [haccounts.crashed_eq_lost hover hunshared, List.map_eq_nil_iff, List.filter_eq_nil_iff]
    intro j hj
    simpa [lost] using h.kept j hj
  have hleft : c.left = [] := hqueue
  constructor
  · have houtline := outline_report hnames (haccounts.outline_results_perm hover hunshared)
    refine map_shown_eq hnames (fun _ => rfl) ?_ fun r hr => ?_
    · have hfirst := congrArg (List.map Prod.fst) houtline
      rw [List.map_map, List.map_map] at hfirst
      exact hfirst
    · have hfinished : r ∈ c.desk.finished := by
        have hmem := List.mem_mergeSort.mp hr
        simpa [results, known, hleft, hcrashed] using hmem
      obtain ⟨j, hj, hfate⟩ := haccounts.mem_finished_iff.mp hfinished
      obtain ⟨houtcome, hpages, -⟩ := h.finished j hj r hfate
      have hsuite : j.suite ∈ suites :=
        haccounts.handed ▸ List.mem_append_left _ (List.mem_map_of_mem hj)
      refine ⟨j.suite, hsuite, ?_⟩
      rw [shown, (haccounts.concerns j hj r hfate).name, houtcome, hpages]
  · intro s hs
    obtain ⟨j, hj, rfl, r, hfate⟩ := h.finished_of_mem haccounts hover hqueue hs
    have hentries : c.entries suites = c.desk.log := by
      simp [entries, hleft, hcrashed]
    rw [written, Crew.report, messages_grouped, hentries, (h.finished j hj r hfate).2.2]

/-- A suite that always comes to one deed comes to it alone. -/
theorem reportedAsAlone_of_goes {s : Suite} {done : Deed} {report : Report}
    (hgoes : Goes (WrittenBy suites) (done.Ends s) store done.lines (s.run settings))
    (hshown : (s.name, done.outcome, done.pages) ∈ report.suites.map shown)
    (hwritten : written report s.name = done.lines) :
    ReportedAsAlone settings store s report := by
  let w : World := ⟨.start .blank none 0, store, []⟩
  obtain ⟨⟨ms, hvalue⟩, hlog⟩ := Goes.run (w := w) hgoes rfl rfl
  obtain ⟨r, hr, hresult⟩ := List.mem_map.mp hshown
  refine ⟨_, (w.run (s.run settings)).2, Prod.ext hvalue rfl, ⟨r, hr, hresult⟩, ?_⟩
  rw [hwritten]
  exact hlog.symm

/-! ## Two runs -/

section Agreement

variable {threads : Nat} {site site' : Site} {startedAt startedAt' : Moment}
  {turns turns' : List Turn}

/-- Suites of distinct names work on the store, the log and the clock only, and read nothing
that another one of them writes.  Then, whatever the number of workers, whoever takes which
suite and however the turns fall, a worker begins with the caller's store as it was given,
and if the run is not cancelled and no session is refused, every suite is reported as it goes
alone.  So the report shows the same verdicts and pages and the same messages of each suite
as that of a run with one worker. -/
theorem parallel_agrees (hnames : (suites.map Suite.name).Nodup) (hconfined : Confined suites)
    (hthreads : 0 < threads)
    (hrun : Run settings (start suites store site startedAt (workerCount threads suites.length))
      turns c) :
    (∀ w ∈ c.workers, w.phase = .opening → w.store = store) ∧
      (∃ more d, Run settings
        (start suites store site startedAt (workerCount threads suites.length))
        (turns ++ more) d ∧ d.Over) ∧
      (c.Over → c.desk.site.cancelled = false → AllOpen turns →
        (∀ s ∈ suites, ReportedAsAlone settings store s (c.report suites)) ∧
        ∀ {d : Crew}, Run settings
            (start suites store site' startedAt' (workerCount 1 suites.length)) turns' d →
          d.Over → d.desk.site.cancelled = false → AllOpen turns' →
          (c.report suites).suites.map shown = (d.report suites).suites.map shown ∧
            ∀ s ∈ suites, written (c.report suites) s.name = written (d.report suites) s.name) := by
  refine ⟨fun w hw hphase => store_of_opening hrun hw hphase, hrun.ends, ?_⟩
  intro hover hgo hopen
  -- what each suite comes to is settled before any worker takes it
  obtain ⟨deed, hdeed⟩ := hconfined.exists_deeds settings store
  obtain ⟨hshown, hwritten⟩ := (isolated_of_run hnames hdeed hrun hgo hopen).report
    (accounts_of_run hrun) hnames hover (workers_ne_nil_of_run hthreads hrun)
  refine ⟨fun s hs => ?_, fun {d} hrun' hover' hgo' hopen' => ?_⟩
  · refine reportedAsAlone_of_goes (hdeed s hs store (.refl store)) ?_ (hwritten s hs)
    rw [hshown]
    exact List.mem_map_of_mem hs
  · obtain ⟨hshown', hwritten'⟩ := (isolated_of_run hnames hdeed hrun' hgo' hopen').report
      (accounts_of_run hrun') hnames hover' (workers_ne_nil_of_run Nat.one_pos hrun')
    exact ⟨hshown.trans hshown'.symm, fun s hs => (hwritten s hs).trans (hwritten' s hs).symm⟩

/-- Two suites that set the same variable and then read it, the first one after a while. -/
def sharers : List Suite :=
  [⟨"a", [⟨"p", [⟨"set", ["user", "alice"], 1⟩, ⟨"delay", ["5"], 2⟩]⟩,
      ⟨"q", [⟨"log_var", ["user"], 3⟩]⟩]⟩,
    ⟨"b", [⟨"p", [⟨"set", ["user", "bob"], 1⟩, ⟨"base_url", ["%(tier).test"], 2⟩,
      ⟨"log_var", ["user"], 3⟩]⟩]⟩]

/-- What some workers make of them. -/
def shared (threads : Nat) : Crew :=
  runSuites ⟨0, 0, .standard⟩ threads sharers (Store.empty.set "tier" (.string "dev"))
    (.start .blank none 0) ⟨0, 0⟩

theorem parallel_agrees_sharers :
    (∀ s ∈ sharers, ReportedAsAlone ⟨0, 0, .standard⟩ (Store.empty.set "tier" (.string "dev")) s
        ((shared 2).report sharers)) ∧
      ((shared 2).report sharers).suites.map shown =
        ((shared 1).report sharers).suites.map shown ∧
      ∀ s ∈ sharers, written ((shared 2).report sharers) s.name =
        written ((shared 1).report sharers) s.name := by
  have hrun : ∀ threads, ∃ turns, Run ⟨0, 0, .standard⟩ (start sharers
      (Store.empty.set "tier" (.string "dev")) (.start .blank none 0) ⟨0, 0⟩
      (workerCount threads sharers.length)) turns (shared threads) ∧ (shared threads).Over :=
    fun threads => run_runSuites ⟨0, 0, .standard⟩ threads sharers _ _ _
  have hwelcoming : Scripted.blank.Welcoming := ⟨rfl, nofun⟩
  obtain ⟨turns, hparallel, hover⟩ := hrun 2
  obtain ⟨turns', hsequential, hover'⟩ := hrun 1
  have hgo : (shared 2).desk.site.cancelled = false := by
    rw [shared, runSuites,
      finish_eq_advance (n := 60) (Option.isNone_iff_eq_none.mp (by decide +kernel))]
    decide +kernel
  have hgo' : (shared 1).desk.site.cancelled = false := by
    rw [shared, runSuites,
      finish_eq_advance (n := 60) (Option.isNone_iff_eq_none.mp (by decide +kernel))]
    decide +kernel
  obtain ⟨halone, hagrees⟩ := (parallel_agrees (by decide) (by decide +kernel) (by decide)
    hparallel).2.2 hover hgo (allOpen_of_welcoming hwelcoming hparallel)
  exact ⟨halone, hagrees hsequential hover' hgo' (allOpen_of_welcoming hwelcoming hsequential)⟩

end Agreement

end Crew

end BrowserSuite
