import BrowserSuite.Proofs.Pool.Career
import BrowserSuite.Proofs.SuiteRun.Course
import Mathlib.Data.List.Induction

/-!
# Suites are handed out in order

The turns in which workers take suites, seen in the order in which they happen, hand out the
suites of the run from the first one on: together with the queue they are always the whole
list (`handed_append_queue`).  So the place of a suite in the run is the number of suites that
were handed out before it, and a suite needs no name to be told from the others.

`placesOf` are the places of the suites that one worker takes.  They grow, no two workers
share one, and what is never handed out is the rest of the list (`suites_handed_in_order`).
-/

namespace BrowserSuite

/-- No suite run has the result of a suite that was not run. -/
theorem Suite.outcome_ne_of_ends {E : Type} {settings : PageSettings} {suite : Suite}
    {steps : List (Task.Step E)} {run : SuiteRun}
    (h : (suite.run settings).Ends steps (.value run)) (reason : String) :
    run.result.outcome ≠ .failed none reason := by
  obtain ⟨last, -, houtcome⟩ := SuiteRun.outcome_of_ends h
  rw [houtcome]
  unfold Suite.outcomeAfter
  split
  · simp
  · split <;> simp

namespace Crew

variable {settings : PageSettings} {suites : List Suite} {c : Crew} {turns : List Turn}
  {store : Store} {site : Site} {startedAt : Moment} {workers i j k : Nat}

/-! ## Taking suites -/

/-- The suite that a worker takes in a turn. -/
def Turn.takes? (t : Turn) : Option Suite :=
  match t.before.suite? with
  | none => t.after.suite?
  | some _ => none

/-- The suites that were handed out, each with the worker that took it, in the order in which
they were. -/
def handed (turns : List Turn) : List (Nat × Suite) :=
  turns.filterMap fun t => t.takes?.map (t.worker, ·)

/-- The places, among all suites that were handed out, of those that one worker took. -/
def placesOf (i : Nat) (turns : List Turn) : List Nat :=
  ((handed turns).zipIdx.filter fun h => h.1.1 == i).map Prod.snd

/-- The ledger is about the suites that were handed out. -/
theorem handed_eq_ledger (turns : List Turn) :
    handed turns = (ledger turns).map fun j => (j.worker, j.suite) := by
  induction turns using List.reverseRecOn with
  | nil => rfl
  | append_singleton turns t ih =>
      -- a job that is settled is still of the same worker and suite
      have hsettle : ∀ fate, ((ledger turns).map (Job.settle t.worker fate)).map
          (fun j => (j.worker, j.suite)) = (ledger turns).map fun j => (j.worker, j.suite) := by
        intro fate
        rw [List.map_map]
        refine List.map_congr_left fun j _ => ?_
        rw [Function.comp_apply, Job.settle]
        split <;> rfl
      have hsnoc : handed (turns ++ [t]) = handed turns ++ (t.takes?.map (t.worker, ·)).toList := by
        unfold handed
        rw [List.filterMap_append]
        cases ht : t.takes? <;> simp [ht]
      rw [hsnoc, ledger_snoc, ih, enter, Turn.takes?]
      cases t.before.suite? <;> cases t.after.suite? <;> simp [hsettle]

/-- At every moment, the suites that were handed out and those in the queue are all suites. -/
theorem handed_append_queue
    (h : Run settings (start suites store site startedAt workers) turns c) :
    (handed turns).map Prod.snd ++ c.desk.queue.suites = suites := by
  rw [handed_eq_ledger, List.map_map]
  exact (accounts_of_run h).handed

/-! ## Places -/

theorem mem_placesOf_iff : k ∈ placesOf i turns ↔ ∃ s, (handed turns)[k]? = some (i, s) := by
  unfold placesOf
  constructor
  · intro hk
    obtain ⟨⟨⟨j, s⟩, k⟩, hplace, rfl⟩ := List.mem_map.mp hk
    obtain ⟨hmem, hj⟩ := List.mem_filter.mp hplace
    obtain rfl : j = i := eq_of_beq hj
    exact ⟨s, List.mem_zipIdx_iff_getElem?.mp hmem⟩
  · rintro ⟨s, hs⟩
    exact List.mem_map.mpr ⟨((i, s), k), List.mem_filter.mpr
      ⟨List.mem_zipIdx_iff_getElem?.mpr hs, beq_self_eq_true i⟩, rfl⟩

/-- A worker takes its suites in the order of their places. -/
theorem pairwise_placesOf (i : Nat) (turns : List Turn) :
    (placesOf i turns).Pairwise (· < ·) := by
  have hall : ((handed turns).zipIdx.map Prod.snd).Pairwise (· < ·) := by
    rw [List.zipIdx_map_snd]
    exact List.pairwise_lt_range'
  exact hall.sublist (List.filter_sublist.map _)

/-- The turns of a worker hand out what it takes among all. -/
theorem handed_turnsOf (i : Nat) (turns : List Turn) :
    handed (turnsOf i turns) = (handed turns).filter fun h => h.1 == i := by
  unfold handed turnsOf
  rw [List.filterMap_filter, List.filter_filterMap]
  refine List.filterMap_congr fun t _ => ?_
  cases t.takes? with
  | none => simp
  | some s =>
      by_cases hi : t.worker = i
      · simp [hi, Option.filter]
      · simp [hi, Option.filter]

/-- The suites that a worker takes are those at its places. -/
theorem takes_eq_map_placesOf
    (h : Run settings (start suites store site startedAt workers) turns c) (i : Nat) :
    (handed (turnsOf i turns)).map (fun h => some h.2) = (placesOf i turns).map (suites[·]?) := by
  have hsuites : ∀ (k j : Nat) (s : Suite), (handed turns)[k]? = some (j, s) →
      suites[k]? = some s := by
    intro k j s hk
    have hlt : k < (handed turns).length := (List.getElem?_eq_some_iff.mp hk).1
    rw [← handed_append_queue h, List.getElem?_append_left (by simpa using hlt), List.getElem?_map,
      hk]
    rfl
  -- what one worker takes, with its places and without them
  have hfst : (handed turns).filter (fun h => h.1 == i) =
      ((handed turns).zipIdx.filter fun h => h.1.1 == i).map Prod.fst := by
    have hzip := List.filter_map (f := Prod.fst) (p := fun h : Nat × Suite => h.1 == i)
      (l := (handed turns).zipIdx)
    rwa [List.zipIdx_map_fst] at hzip
  rw [handed_turnsOf, hfst, placesOf, List.map_map, List.map_map]
  refine List.map_congr_left fun ⟨⟨j, s⟩, k⟩ hplace => ?_
  have hmem := List.mem_zipIdx_iff_getElem?.mp (List.mem_filter.mp hplace).1
  exact (hsuites k j s hmem).symm

/-! ## Suites that are never taken -/

/-- What is left is the end of the list. -/
theorem left_eq_drop (h : Run settings (start suites store site startedAt workers) turns c) :
    c.left = suites.drop (handed turns).length := by
  have hall := handed_append_queue h
  have hlength : (handed turns).length = ((handed turns).map Prod.snd).length := by simp
  rw [← hall, hlength, List.drop_left]
  rfl

/-- Whatever is finished is the result of a suite run. -/
theorem ends_of_mem_finished
    (h : Run settings (start suites store site startedAt workers) turns c) {r : SuiteResult}
    (hr : r ∈ c.desk.finished) :
    ∃ (suite : Suite) (steps : List (Task.Step Handle)) (run : SuiteRun),
      (suite.run settings).Ends steps (.value run) ∧ run.result = r := by
  induction h with
  | nil => cases hr
  | @turn turns c i time w v e hrun hw hlive _ hstep ih =>
      have hshift := (Desk.does_of_step hlive hstep).shift
      have hpath := (accounts_of_run hrun).path i w hw
      generalize w.phase = p at hshift hpath
      generalize v.phase = q at hshift
      cases hshift with
      | quiet _ hfinished | answers _ _ hfinished | takes _ _ hfinished | loses _ hfinished =>
          exact ih (hfinished ▸ hr)
      | @finishes _ _ suite run _ hfinished =>
          -- the path of the task that has ended leads to its result
          dsimp only at hr hfinished
          rw [hfinished] at hr
          rcases List.mem_append.mp hr with hr | hr
          · exact ih hr
          · obtain ⟨steps, hends⟩ := hpath suite _ rfl
            exact ⟨suite, steps, run, hends, (List.mem_singleton.mp hr).symm⟩
  | cancel _ ih => exact ih hr

/-- The suites that are reported as left by all workers are those that were never taken. -/
theorem filter_report_perm
    (h : Run settings (start suites store site startedAt workers) turns c) :
    ((c.report suites).suites.filter (·.outcome == .failed none c.leftReason)).Perm
      (c.left.map (SuiteResult.notRun · c.leftReason)) := by
  have hreason : c.leftReason ≠ "worker crashed" := by
    unfold leftReason
    split <;> decide
  have hfinished : c.desk.finished.filter (·.outcome == .failed none c.leftReason) = [] := by
    refine List.filter_eq_nil_iff.mpr fun r hr houtcome => ?_
    obtain ⟨suite, steps, run, hends, rfl⟩ := ends_of_mem_finished h hr
    exact Suite.outcome_ne_of_ends hends _ (eq_of_beq houtcome)
  have hleft : (c.left.map (SuiteResult.notRun · c.leftReason)).filter
      (·.outcome == .failed none c.leftReason) =
        c.left.map (SuiteResult.notRun · c.leftReason) := by
    refine List.filter_eq_self.mpr fun r hr => ?_
    obtain ⟨s, -, rfl⟩ := List.mem_map.mp hr
    exact beq_self_eq_true _
  have hcrashed : ((c.crashed suites).map (SuiteResult.notRun · "worker crashed")).filter
      (·.outcome == .failed none c.leftReason) = [] := by
    refine List.filter_eq_nil_iff.mpr fun r hr houtcome => ?_
    obtain ⟨s, -, rfl⟩ := List.mem_map.mp hr
    have hsame : Outcome.failed none "worker crashed" = .failed none c.leftReason :=
      eq_of_beq houtcome
    exact hreason (Outcome.failed.inj hsame).2.symm
  refine ((List.mergeSort_perm ..).filter _).trans ?_
  rw [results, known, List.filter_append, List.filter_append, hfinished, hleft, hcrashed,
    List.nil_append, List.append_nil]

/-- At every moment of every run, the suites that were handed out, in the order in which they
were, and those in the queue are the list of the run.  So each place of the list is taken by
one worker at most, and once; a worker takes its suites in the order of the list; and those
that are reported as never taken are the end of it. -/
theorem suites_handed_in_order
    (hrun : Run settings (start suites store site startedAt workers) turns c) :
    (handed turns).map Prod.snd ++ c.desk.queue.suites = suites ∧
      (∀ i, (handed (turnsOf i turns)).map (fun h => some h.2) =
          (placesOf i turns).map (suites[·]?) ∧
        (placesOf i turns).Pairwise (· < ·)) ∧
      (∀ k, k < (handed turns).length ↔ ∃ i, k ∈ placesOf i turns) ∧
      (∀ i j k, k ∈ placesOf i turns → k ∈ placesOf j turns → i = j) ∧
      ((c.report suites).suites.filter (·.outcome == .failed none c.leftReason)).Perm
        ((suites.drop (handed turns).length).map (SuiteResult.notRun · c.leftReason)) := by
  refine ⟨handed_append_queue hrun, fun i => ⟨takes_eq_map_placesOf hrun i, pairwise_placesOf i turns⟩,
    fun k => ⟨fun hk => ?_, ?_⟩, fun i j k hi hj => ?_, ?_⟩
  · exact ⟨_, mem_placesOf_iff.mpr ⟨_, List.getElem?_eq_getElem hk⟩⟩
  · rintro ⟨i, hi⟩
    obtain ⟨s, hs⟩ := mem_placesOf_iff.mp hi
    exact (List.getElem?_eq_some_iff.mp hs).1
  · obtain ⟨s, hs⟩ := mem_placesOf_iff.mp hi
    obtain ⟨t, ht⟩ := mem_placesOf_iff.mp hj
    cases hs.symm.trans ht
    rfl
  · rw [← left_eq_drop hrun]
    exact filter_report_perm hrun

/-- A suite that opens an address. -/
def visit (name : String) : Suite := ⟨name, [⟨"p", [⟨"open", ["/" ++ name], 1⟩]⟩]⟩

/-- A browser that needs 10 ms to open an address, and loses its session at some of them. -/
def fragile (perils : List String) : Scripted :=
  let rule (url : Option String) (error : Option BrowserError) : Scripted.Rule :=
    ⟨"navigate", url, 0, none, 10, false, none, error⟩
  { Scripted.blank with
    rules := perils.map (fun url => rule (some url) (some (.session "gone"))) ++ [rule none none] }

/-- Two workers that are going to open addresses there. -/
def travellers (names perils : List String) : Crew :=
  start (names.map visit) (Store.empty.set "base" (.string "")) (.start (fragile perils) none 0)
    ⟨0, 0⟩ (workerCount 2 names.length)

/-- The first worker takes the suites `a` and `c` and the second one takes `b` between them.
Both lose their sessions, and `d` is reported as not run. -/
theorem suites_handed_in_order_stranded :
    let suites := ["a", "b", "c", "d"].map visit
    let first := travellers ["a", "b", "c", "d"] ["/b", "/c"]
    let turns := first.history ⟨0, 0, .standard⟩ 60
    let c := first.advance ⟨0, 0, .standard⟩ 60
    Run ⟨0, 0, .standard⟩ first turns c ∧ c.Over ∧
      (handed (turnsOf 0 turns)).map (fun h => some h.2) = [visit "a", visit "c"].map some ∧
      (handed (turnsOf 1 turns)).map (fun h => some h.2) = [visit "b"].map some ∧
      c.desk.queue.suites = [visit "d"] ∧
        ((c.report suites).suites.filter (·.outcome == .failed none c.leftReason)).Perm
          [SuiteResult.notRun (visit "d") "not run: no browser session available"] := by
  intro suites first turns c
  have hrun : Run ⟨0, 0, .standard⟩ first turns c := run_advance .nil 60
  have hover : c.Over := over_advance (by decide +kernel)
  obtain ⟨hall, htakes, -, -, hreport⟩ := suites_handed_in_order hrun
  have hfirst : placesOf 0 turns = [0, 2] := by decide +kernel
  have hsecond : placesOf 1 turns = [1] := by decide +kernel
  have hlength : (handed turns).length = 3 := by decide +kernel
  have hqueue : c.desk.queue.suites = [visit "d"] := by
    have hrest := congrArg (List.drop 3) hall
    rwa [List.drop_left' (by rw [List.length_map, hlength])] at hrest
  have hcancelled : c.desk.site.cancelled = false := by decide +kernel
  refine ⟨hrun, hover, ?_, ?_, hqueue, ?_⟩
  · rw [(htakes 0).1, hfirst]
    rfl
  · rw [(htakes 1).1, hsecond]
    rfl
  · rw [hlength] at hreport
    rw [leftReason, hcancelled] at hreport ⊢
    exact hreport

end Crew

end BrowserSuite
