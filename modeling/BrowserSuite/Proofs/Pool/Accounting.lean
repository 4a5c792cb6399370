import BrowserSuite.Proofs.Pool.Ledger

/-!
# Every suite is reported

When all workers have ended, every job of the ledger is finished or lost, and
what is left of the run's suites is in the queue.  The report takes finished
suites and those of the queue as they are, and looks for the lost ones by name: a
suite is reported as crashed if nothing is known of its name.

* `report_lists_every_suite`: if names are distinct, that is exactly the lost
  suites, and the report has one entry for each suite, in the order of the run.
* `report_reliable_iff`: if names may repeat, a lost suite is missing from the
  report exactly if another suite of its name is in it, and only then can a report
  be green that should not be.
-/

namespace BrowserSuite

namespace Crew

variable {settings : PageSettings} {suites : List Suite} {c : Crew} {jobs : List Job}

/-! ## Names with a result -/

/-- Whether there is a result of some name before crashed suites are looked for. -/
def knows (c : Crew) (name : String) : Bool := c.known.any fun r => r.name == name

theorem knows_iff {name : String} : c.knows name = true ↔ ∃ r ∈ c.known, r.name = name := by
  simp [knows]

/-- A suite that no worker took is known. -/
theorem knows_of_mem_queue {s : Suite} (hs : s ∈ c.desk.queue.suites) : c.knows s.name = true :=
  knows_iff.mpr ⟨_, List.mem_append_right _ (List.mem_map_of_mem hs), rfl⟩

theorem Accounts.mem_finished_iff (h : Accounts settings suites c jobs) {r : SuiteResult} :
    r ∈ c.desk.finished ↔ ∃ j ∈ jobs, j.fate = .finished r := by
  rw [h.finished.mem_iff, List.mem_filterMap]
  refine exists_congr fun j => and_congr_right fun _ => ?_
  unfold Job.result?
  split <;> simp_all

/-- A name is known if a suite of that name was finished or is left in the queue. -/
theorem Accounts.knows_iff (h : Accounts settings suites c jobs) {name : String} :
    c.knows name = true ↔
      (∃ j ∈ jobs, ∃ r, j.fate = .finished r ∧ j.suite.name = name) ∨
        ∃ s ∈ c.desk.queue.suites, s.name = name := by
  rw [Crew.knows_iff]
  constructor
  · rintro ⟨r, hr, rfl⟩
    rcases List.mem_append.mp hr with hr | hr
    · obtain ⟨j, hj, hfate⟩ := h.mem_finished_iff.mp hr
      exact .inl ⟨j, hj, r, hfate, (h.concerns j hj r hfate).name.symm⟩
    · obtain ⟨s, hs, rfl⟩ := List.mem_map.mp hr
      exact .inr ⟨s, hs, rfl⟩
  · rintro (⟨j, hj, r, hfate, rfl⟩ | ⟨s, hs, rfl⟩)
    · exact ⟨r, List.mem_append_left _ (h.mem_finished_iff.mpr ⟨j, hj, hfate⟩),
        (h.concerns j hj r hfate).name⟩
    · exact Crew.knows_iff.mp (knows_of_mem_queue hs)

/-- Whether a job's suite is reported as crashed. -/
def unknown (c : Crew) (j : Job) : Bool := !c.knows j.suite.name

/-- The suites that are reported as crashed are those of the jobs of whose names
nothing is known. -/
theorem Accounts.crashed_eq (h : Accounts settings suites c jobs) :
    c.crashed suites = (jobs.filter c.unknown).map Job.suite := by
  have hqueue : c.desk.queue.suites.filter (fun s => !c.knows s.name) = [] := by
    refine List.filter_eq_nil_iff.mpr fun s hs => ?_
    simp [knows_of_mem_queue hs]
  calc c.crashed suites
      = (jobs.map Job.suite ++ c.desk.queue.suites).filter (fun s => !c.knows s.name) := by
        rw [h.handed]
        rfl
    _ = (jobs.filter c.unknown).map Job.suite := by
        rw [List.filter_append, hqueue, List.append_nil, List.filter_map]
        rfl

/-! ## How many suites are reported -/

/-- Whether a job's worker died while it ran the suite. -/
def lost (j : Job) : Bool := j.fate == .lost

theorem Accounts.lost_of_unknown (h : Accounts settings suites c jobs) (hover : c.Over)
    {j : Job} (hj : j ∈ jobs) (hunknown : c.unknown j = true) : lost j = true := by
  unfold lost
  cases hfate : j.fate with
  | running => exact absurd hfate (h.fate_ne_running hover j hj)
  | finished r =>
      have hknows := h.knows_iff.mpr (.inl ⟨j, hj, r, hfate, rfl⟩)
      simp [unknown, hknows] at hunknown
  | lost => rfl

/-- When all workers have ended, every job has a result or is lost. -/
theorem Accounts.isSome_result? (h : Accounts settings suites c jobs) (hover : c.Over) {j : Job}
    (hj : j ∈ jobs) : j.result?.isSome = !lost j := by
  unfold lost Job.result?
  cases hfate : j.fate with
  | running => exact absurd hfate (h.fate_ne_running hover j hj)
  | finished r => simp
  | lost => simp

/-- The report lacks exactly the lost suites of a name that is known otherwise. -/
theorem Accounts.length_results (h : Accounts settings suites c jobs) (hover : c.Over) :
    (c.results suites).length + jobs.countP (fun j => lost j && !c.unknown j) = suites.length := by
  -- every suite is left, finished, lost and reported, or lost and missing
  have hfinished : c.desk.finished.length = jobs.countP (fun j => !lost j) := by
    rw [h.finished.length_eq, List.length_filterMap_eq_countP]
    exact List.countP_congr fun j hj => by rw [h.isSome_result? hover hj]
  have hcrashed : (c.crashed suites).length = jobs.countP (fun j => lost j && c.unknown j) := by
    rw [h.crashed_eq, List.length_map, ← List.countP_eq_length_filter]
    refine List.countP_congr fun j hj => ?_
    simpa using fun hunknown => h.lost_of_unknown hover hj hunknown
  have hlost : jobs.countP lost =
      jobs.countP (fun j => lost j && c.unknown j) +
        jobs.countP (fun j => lost j && !c.unknown j) := by
    rw [List.countP_eq_countP_filter_add jobs lost c.unknown, List.countP_filter,
      List.countP_filter]
  have hall : jobs.length = jobs.countP lost + jobs.countP (fun j => !lost j) := by
    simpa using List.length_eq_countP_add_countP lost (l := jobs)
  have hsuites : suites.length = jobs.length + c.desk.queue.suites.length := by
    rw [← h.handed]
    simp
  have hresults : (c.results suites).length =
      c.desk.finished.length + c.desk.queue.suites.length + (c.crashed suites).length := by
    simp [results, known, left, SuiteQueue.drain, Nat.add_assoc]
  omega

/-- No lost suite has the name of a suite that was finished or that no worker took. -/
def Unshared (c : Crew) (jobs : List Job) : Prop :=
  ∀ j ∈ jobs, j.fate = .lost →
    (∀ k ∈ jobs, k.suite.name = j.suite.name → k.fate = .lost) ∧
      ∀ s ∈ c.desk.queue.suites, s.name ≠ j.suite.name

/-- Exactly then nothing is known of the names of lost suites. -/
theorem Accounts.unshared_iff (h : Accounts settings suites c jobs) (hover : c.Over) :
    Unshared c jobs ↔ ∀ j ∈ jobs, lost j = true → c.unknown j = true := by
  refine forall₂_congr fun j hj => imp_congr (by simp [lost]) ?_
  have hknown : c.unknown j = true ↔ ¬c.knows j.suite.name = true := by simp [unknown]
  rw [hknown, h.knows_iff]
  constructor
  · rintro ⟨hjobs, hqueue⟩ (⟨k, hk, r, hfate, hname⟩ | ⟨s, hs, hname⟩)
    · rw [hjobs k hk hname] at hfate
      cases hfate
    · exact hqueue s hs hname
  · intro hnot
    refine ⟨fun k hk hname => ?_, fun s hs hname => hnot (.inr ⟨s, hs, hname⟩)⟩
    cases hfate : k.fate with
    | running => exact absurd hfate (h.fate_ne_running hover k hk)
    | finished r => exact (hnot (.inl ⟨k, hk, r, hfate, hname⟩)).elim
    | lost => rfl

theorem Accounts.unshared_iff_length (h : Accounts settings suites c jobs) (hover : c.Over) :
    Unshared c jobs ↔ (c.results suites).length = suites.length := by
  have hlength := h.length_results hover
  have hnone : jobs.countP (fun j => lost j && !c.unknown j) = 0 ↔
      ∀ j ∈ jobs, lost j = true → c.unknown j = true := by
    simp [List.countP_eq_zero]
  rw [h.unshared_iff hover, ← hnone]
  omega

/-- Distinct names are not shared. -/
theorem Accounts.unshared_of_nodup (h : Accounts settings suites c jobs)
    (hnames : (suites.map Suite.name).Nodup) : Unshared c jobs := by
  intro j hj hlost
  refine ⟨fun k hk hname => ?_, fun s hs => (h.name_ne_of_mem_queue hnames hj hs).symm⟩
  rw [h.eq_of_name hnames hk hj hname]
  exact hlost

/-! ## What is reported of each suite -/

/-- Crashed suites are the lost ones. -/
theorem Accounts.crashed_eq_lost (h : Accounts settings suites c jobs) (hover : c.Over)
    (hunshared : Unshared c jobs) : c.crashed suites = (jobs.filter lost).map Job.suite := by
  rw [h.crashed_eq]
  congr 1
  refine List.filter_congr fun j hj => Bool.eq_iff_iff.mpr ⟨?_, ?_⟩
  · exact h.lost_of_unknown hover hj
  · exact (h.unshared_iff hover).mp hunshared j hj

/-- The finished suites are the jobs that were not lost. -/
theorem Accounts.outline_finished_perm (h : Accounts settings suites c jobs) (hover : c.Over) :
    (c.desk.finished.map SuiteResult.outline).Perm
      ((jobs.filter fun j => !lost j).map (Suite.outline ∘ Job.suite)) := by
  have hlist : (jobs.filterMap Job.result?).map SuiteResult.outline =
      (jobs.filter fun j => !lost j).map (Suite.outline ∘ Job.suite) := by
    rw [List.map_filterMap, ← List.filterMap_eq_map', List.filterMap_filter]
    refine List.filterMap_congr fun j hj => ?_
    cases hfate : j.fate with
    | running => exact absurd hfate (h.fate_ne_running hover j hj)
    | finished r => simp [Job.result?, lost, hfate, (h.concerns j hj r hfate).outline_eq]
    | lost => simp [Job.result?, lost, hfate]
  rw [← hlist]
  exact h.finished.map _

theorem map_outline_notRun (reason : String) (left : List Suite) :
    (left.map (SuiteResult.notRun · reason)).map SuiteResult.outline = left.map Suite.outline := by
  rw [List.map_map]
  exact List.map_congr_left fun s _ => (SuiteResult.concerns_notRun s reason).outline_eq

/-- The results are about the suites of the run, in some order. -/
theorem Accounts.outline_results_perm (h : Accounts settings suites c jobs) (hover : c.Over)
    (hunshared : Unshared c jobs) :
    ((c.results suites).map SuiteResult.outline).Perm (suites.map Suite.outline) := by
  have hjobs : (c.desk.finished.map SuiteResult.outline ++
      (c.crashed suites).map Suite.outline).Perm ((jobs.map Job.suite).map Suite.outline) := by
    rw [h.crashed_eq_lost hover hunshared, List.map_map, List.map_map]
    refine ((h.outline_finished_perm hover).append_right _).trans ?_
    refine List.perm_append_comm.trans ?_
    rw [← List.map_append]
    exact (List.filter_append_perm lost jobs).map _
  have hsuites : suites.map Suite.outline =
      (jobs.map Job.suite).map Suite.outline ++ c.left.map Suite.outline := by
    rw [← List.map_append]
    exact congrArg _ h.handed.symm
  rw [results, known, List.map_append, List.map_append, map_outline_notRun, map_outline_notRun,
    List.append_assoc, hsuites]
  refine (List.perm_append_comm.append_left _).trans ?_
  rw [← List.append_assoc]
  exact hjobs.append_right _

/-! ## The order of the report -/

theorem placeOf_eq_idxOf (name : String) :
    placeOf suites name = (suites.map Suite.name).idxOf name := by
  rw [placeOf, List.idxOf, List.findIdx_map]
  rfl

/-- Suites of distinct names stand in the order of their places. -/
theorem pairwise_placeOf (hnames : (suites.map Suite.name).Nodup) :
    suites.Pairwise fun s t => placeOf suites s.name ≤ placeOf suites t.name := by
  have hplace : ∀ (i : Nat) (hi : i < suites.length), placeOf suites suites[i].name = i := by
    intro i hi
    have hidx := hnames.idxOf_getElem i (by simpa using hi)
    rw [List.getElem_map] at hidx
    rw [placeOf_eq_idxOf]
    exact hidx
  rw [List.pairwise_iff_getElem]
  intro i k hi hk hlt
  rw [hplace i hi, hplace k hk]
  omega

/-- The results of the report are sorted by the places of their names. -/
theorem pairwise_report (suites : List Suite) (c : Crew) :
    (c.report suites).suites.Pairwise fun a b => placeOf suites a.name ≤ placeOf suites b.name := by
  have hsorted := @List.pairwise_mergeSort SuiteResult
    (fun a b => decide (placeOf suites a.name ≤ placeOf suites b.name))
    (fun a b c hab hbc => by
      rw [decide_eq_true_eq] at *
      exact Nat.le_trans hab hbc)
    (fun a b => by
      rw [Bool.or_eq_true, decide_eq_true_eq, decide_eq_true_eq]
      exact Nat.le_total ..)
    (c.results suites)
  exact hsorted.imp fun h => of_decide_eq_true h

/-- Results about all suites of a run are reported in the order of the run. -/
theorem outline_report (hnames : (suites.map Suite.name).Nodup)
    (hperm : ((c.results suites).map SuiteResult.outline).Perm (suites.map Suite.outline)) :
    (c.report suites).suites.map SuiteResult.outline = suites.map Suite.outline := by
  have hreported : ((c.report suites).suites.map SuiteResult.outline).Perm
      (suites.map Suite.outline) := ((List.mergeSort_perm ..).map _).trans hperm
  have hsorted : ((c.report suites).suites.map SuiteResult.outline).Pairwise
      fun a b => placeOf suites a.1 ≤ placeOf suites b.1 :=
    List.pairwise_map.mpr (pairwise_report suites c)
  have hordered : (suites.map Suite.outline).Pairwise
      fun a b => placeOf suites a.1 ≤ placeOf suites b.1 :=
    List.pairwise_map.mpr (pairwise_placeOf hnames)
  refine List.Perm.eq_of_pairwise ?_ hsorted hordered hreported
  intro a b ha hb hab hba
  -- outlines in one place have one name, so they are of one suite
  obtain ⟨s, hs, rfl⟩ := List.mem_map.mp (hreported.mem_iff.mp ha)
  obtain ⟨t, ht, rfl⟩ := List.mem_map.mp hb
  have hplace : placeOf suites s.name = placeOf suites t.name := Nat.le_antisymm hab hba
  rw [placeOf_eq_idxOf, placeOf_eq_idxOf, List.idxOf_inj (List.mem_map_of_mem hs)] at hplace
  rw [List.inj_on_of_nodup_map hnames hs ht hplace]

/-! ## Reports in which all passed -/

theorem total_report : (c.report suites).total = (c.results suites).length :=
  List.length_mergeSort _

theorem isAllPassed_report : (c.report suites).isAllPassed = true ↔
    ∀ r ∈ c.results suites, r.outcome = .passed := by
  have hpassed : ∀ o : Outcome, o.isPassed = true ↔ o = .passed := by
    intro o
    cases o <;> simp [Outcome.isPassed]
  have hcount : (c.report suites).passed = (c.results suites).countP fun r => r.outcome.isPassed :=
    (List.mergeSort_perm ..).countP_eq _
  rw [Report.isAllPassed, beq_iff_eq, hcount, total_report, List.countP_eq_length]
  exact forall₂_congr fun r _ => hpassed r.outcome

/-- If all results are passed, every suite was taken and completed: a suite that was not
run would have failed in the report. -/
theorem Accounts.finished_of_passed (h : Accounts settings suites c jobs) (hover : c.Over)
    (hunshared : Unshared c jobs) (hpassed : ∀ r ∈ c.results suites, r.outcome = .passed) :
    jobs.map Job.suite = suites ∧
      ∀ j ∈ jobs, ∃ r, j.fate = .finished r ∧ r.Concerns j.suite ∧
        ∀ record ∈ r.pages, record.state = .completed := by
  have hleft : c.desk.queue.suites = [] := by
    refine List.eq_nil_iff_forall_not_mem.mpr fun s hs => ?_
    have hresult : SuiteResult.notRun s c.leftReason ∈ c.results suites :=
      List.mem_append_left _ (List.mem_append_right _ (List.mem_map_of_mem hs))
    exact nomatch hpassed _ hresult
  have hlasts : ∀ j ∈ jobs, j.fate ≠ .lost := by
    intro j hj hlost
    have hcrashed : j.suite ∈ c.crashed suites := by
      rw [h.crashed_eq_lost hover hunshared]
      exact List.mem_map_of_mem (List.mem_filter.mpr ⟨hj, by simp [lost, hlost]⟩)
    have hresult : SuiteResult.notRun j.suite "worker crashed" ∈ c.results suites :=
      List.mem_append_right _ (List.mem_map_of_mem hcrashed)
    exact nomatch hpassed _ hresult
  refine ⟨by simpa [hleft] using h.handed, fun j hj => ?_⟩
  cases hfate : j.fate with
  | running => exact absurd hfate (h.fate_ne_running hover j hj)
  | lost => exact absurd hfate (hlasts j hj)
  | finished r =>
      have hresult : r ∈ c.results suites :=
        List.mem_append_left _ (List.mem_append_left _ (h.mem_finished_iff.mpr ⟨j, hj, hfate⟩))
      have hconcerns := h.concerns j hj r hfate
      exact ⟨r, rfl, hconcerns, hconcerns.completed (hpassed r hresult)⟩

/-! ## Whole runs -/

section Runs

variable {threads : Nat} {store : Store} {site : Site} {startedAt : Moment} {turns : List Turn}

/-- If names are distinct, every run of the workers can be brought to an end, and at
its end the report has one result for each suite, in the order of the suites, with
the suite's name and the names of its pages. -/
theorem report_lists_every_suite (hnames : (suites.map Suite.name).Nodup)
    (hrun : Run settings (start suites store site startedAt (workerCount threads suites.length))
      turns c) :
    (∃ more d, Run settings (start suites store site startedAt (workerCount threads suites.length))
        (turns ++ more) d ∧ d.Over) ∧
      (c.Over → (c.report suites).suites.map SuiteResult.outline = suites.map Suite.outline) := by
  constructor
  · exact hrun.ends
  · intro hover
    have haccounts := accounts_of_run hrun
    have hunshared := haccounts.unshared_of_nodup hnames
    exact outline_report hnames (haccounts.outline_results_perm hover hunshared)

/-- Two suites whose names are not in the order of the alphabet. -/
theorem report_lists_every_suite_pair :
    let pair : List Suite := [⟨"b", [⟨"p", []⟩]⟩, ⟨"a", []⟩]
    let c := runSuites ⟨0, 0, .standard⟩ 2 pair .empty (.start .blank none 0) ⟨0, 0⟩
    (c.report pair).suites.map SuiteResult.outline = [("b", ["p"]), ("a", [])] := by
  intro pair c
  obtain ⟨turns, hrun, hover⟩ :=
    run_runSuites ⟨0, 0, .standard⟩ 2 pair .empty (.start .blank none 0) ⟨0, 0⟩
  exact (report_lists_every_suite (by decide) hrun).2 hover

/-- The report can be relied on exactly if no lost suite has the name of another suite
that was finished or that no worker took: then its total is the number of suites, and
if it says that all passed, every suite was taken, in the order of the run, and all its
pages were completed. -/
theorem report_reliable_iff
    (hrun : Run settings (start suites store site startedAt (workerCount threads suites.length))
      turns c) (hover : c.Over) :
    ((c.report suites).total = suites.length ∧
      ((c.report suites).isAllPassed = true →
        (ledger turns).map Job.suite = suites ∧
          ∀ j ∈ ledger turns, ∃ r, j.fate = .finished r ∧ r.Concerns j.suite ∧
            ∀ record ∈ r.pages, record.state = .completed)) ↔
      Unshared c (ledger turns) := by
  have haccounts := accounts_of_run hrun
  rw [total_report, haccounts.unshared_iff_length hover]
  refine and_iff_left_of_imp fun hlength hall => ?_
  have hunshared := (haccounts.unshared_iff_length hover).mpr hlength
  exact haccounts.finished_of_passed hover hunshared (isAllPassed_report.mp hall)

/-- Two suites of one name.  The first one opens an address, the second one does not. -/
def namesakes : List Suite :=
  [⟨"a", [⟨"p", [⟨"open", ["/"], 1⟩]⟩]⟩, ⟨"a", [⟨"p", [⟨"log", ["x"], 1⟩]⟩]⟩]

/-- A browser that takes a worker with it when an address is opened. -/
def deadly : Scripted :=
  { Scripted.blank with rules := [⟨"navigate", none, 0, none, 0, false, some .fatal, none⟩] }

/-- What two workers make of `namesakes` on the `deadly` browser. -/
def doomed : Crew :=
  runSuites ⟨0, 0, .standard⟩ 2 namesakes (Store.empty.set "base" (.string ""))
    (.start deadly none 0) ⟨0, 0⟩

/-- One of the workers dies, and the suite of the other one is all that is known. -/
theorem results_doomed : doomed.results namesakes = [⟨"a", .passed, [⟨"p", .completed⟩], 0⟩] := by
  rw [doomed, runSuites,
    finish_eq_advance (n := 30) (Option.isNone_iff_eq_none.mp (by decide +kernel))]
  decide +kernel

/-- The lost one of two suites of one name is missing from a report that says that
all passed. -/
theorem namesake_lost_unreported :
    ∃ turns, Run ⟨0, 0, .standard⟩ (start namesakes (Store.empty.set "base" (.string ""))
        (.start deadly none 0) ⟨0, 0⟩ (workerCount 2 namesakes.length)) turns doomed ∧
      doomed.Over ∧ (doomed.report namesakes).isAllPassed = true ∧
        (doomed.report namesakes).total ≠ namesakes.length ∧
          ∃ j ∈ ledger turns, j.suite ∈ namesakes ∧ j.fate = .lost := by
  obtain ⟨turns, hrun, hover⟩ := run_runSuites ⟨0, 0, .standard⟩ 2 namesakes
    (Store.empty.set "base" (.string "")) (.start deadly none 0) ⟨0, 0⟩
  have haccounts := accounts_of_run hrun
  refine ⟨turns, hrun, hover, isAllPassed_report.mpr ?_, ?_, ?_⟩
  · simp [results_doomed]
  · rw [total_report, results_doomed]
    decide
  · have hlength := haccounts.length_results hover
    change (doomed.results namesakes).length + _ = _ at hlength
    rw [results_doomed] at hlength
    have hone := Nat.add_left_cancel (n := 1) (k := 1) hlength
    obtain ⟨j, hj, hlost⟩ := List.countP_pos_iff.mp (Nat.lt_of_lt_of_eq Nat.one_pos hone.symm)
    have hsuite : j.suite ∈ namesakes :=
      haccounts.handed ▸ List.mem_append_left _ (List.mem_map_of_mem hj)
    exact ⟨j, hj, hsuite, by simpa [lost] using (Bool.and_eq_true_iff.mp hlost).1⟩

/-- So it has to be: that suite's name is shared. -/
theorem report_reliable_iff_doomed :
    ∃ turns, Run ⟨0, 0, .standard⟩ (start namesakes (Store.empty.set "base" (.string ""))
        (.start deadly none 0) ⟨0, 0⟩ (workerCount 2 namesakes.length)) turns doomed ∧
      ¬Unshared doomed (ledger turns) := by
  obtain ⟨turns, hrun, hover⟩ := run_runSuites ⟨0, 0, .standard⟩ 2 namesakes
    (Store.empty.set "base" (.string "")) (.start deadly none 0) ⟨0, 0⟩
  refine ⟨turns, hrun, fun hunshared => ?_⟩
  have htotal := ((report_reliable_iff hrun hover).mpr hunshared).1
  change (doomed.report namesakes).total = _ at htotal
  rw [total_report, results_doomed] at htotal
  exact absurd htotal (by decide)

end Runs

end Crew

end BrowserSuite
