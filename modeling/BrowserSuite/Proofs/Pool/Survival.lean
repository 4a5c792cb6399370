import BrowserSuite.Proofs.Pool.Cancellation
import BrowserSuite.Proofs.Pool.Handout
import BrowserSuite.Proofs.Pool.Opening

/-!
# One worker is enough

A worker between two suites stops for one of two reasons only: the run has been cancelled, or
the queue is empty.  Neither is ever undone, so what it saw then is still true when the last
worker has ended (`settled_of_stopped`).

A worker that opens its session and is neither killed nor loses it ends by stopping.  So in a
run that is not cancelled one such worker is enough for the queue to be empty in the end, and
a suite is left by all workers only if each of them was refused its session, lost it, or was
killed (`queue_emptied_by_survivor`).
-/

namespace BrowserSuite

/-- No suite is going to be taken any more. -/
def Desk.Settled (d : Desk) : Prop := d.site.cancelled = true ∨ d.queue.suites = []

namespace Desk

variable {settings : PageSettings} {d e : Desk} {w v : Worker}

/-- A desk at which no suite is going to be taken stays so. -/
theorem Does.settled (h : Does settings d w e v) (hd : d.Settled) : e.Settled := by
  rcases hd with hcancelled | hqueue
  · exact .inl (h.windsDown hcancelled).2.1
  · refine .inr ?_
    have hshift := h.shift
    generalize w.phase = p at hshift
    generalize v.phase = q at hshift
    cases hshift with
    | quiet hsame | answers _ hsame | finishes hsame | loses hsame => rw [hsame, hqueue]
    | takes hsuites =>
        rw [hqueue] at hsuites
        cases hsuites

/-- A worker stops between two suites where there is no other one for it. -/
theorem Does.settled_of_stops (h : Does settings d w e v) (hw : w.phase = .idle)
    (hv : v.phase = .closing) : e.Settled := by
  cases h with
  | stops _ hend => exact hend
  | takes => cases hv
  | waits hcall =>
      rw [hw] at hcall
      cases hcall
  | opens hp | refused hp | calls hp | sleeps hp | sleepsUntil hp | writes hp | asks hp
  | finishes hp | dies hp | closes hp =>
      rw [hw] at hp
      cases hp

theorem Settled.advance (hd : d.Settled) (time : Nat) :
    Settled { d with site := d.site.advance time } := by
  refine hd.imp_left fun hcancelled => ?_
  simp [Site.advance, hcancelled]

end Desk

namespace Crew

variable {settings : PageSettings} {suites : List Suite} {c : Crew} {turns : List Turn}
  {store : Store} {site : Site} {startedAt : Moment} {workers i : Nat}

theorem stops_of_milestone? {t : Turn} (h : t.milestone? = some .stopped) :
    t.before = .idle ∧ t.after = .closing := by
  obtain ⟨i, p, q⟩ := t
  unfold Turn.milestone? at h
  split at h
  · cases h
  · cases h
  · next hp hq => exact ⟨hp, hq⟩
  · split at h <;> cases h
  · cases h
  · cases h
  · cases h

/-- Once a worker has stopped, no suite is taken any more. -/
theorem settled_of_stopped
    (h : Run settings (start suites store site startedAt workers) turns c)
    (hi : i ∈ whose .stopped turns) : c.desk.Settled := by
  obtain ⟨t, ht, -⟩ := List.mem_map.mp hi
  obtain ⟨hmem, hmilestone⟩ := List.mem_filter.mp ht
  obtain ⟨hbefore, hafter⟩ := stops_of_milestone? (eq_of_beq hmilestone)
  -- from that turn on, by induction on the run
  clear hi ht hmilestone
  induction h with
  | nil => cases hmem
  | turn _ _ hlive _ hstep ih =>
      have hdoes := Desk.does_of_step hlive hstep
      rcases List.mem_append.mp hmem with hearlier | hlast
      · exact hdoes.settled ((ih hearlier).advance _)
      · cases List.mem_singleton.mp hlast
        exact hdoes.settled_of_stops hbefore hafter
  | cancel _ ih => exact .inl rfl

/-- Where suites are left though the run was not cancelled, no worker stopped of its own accord. -/
theorem milestones_of_left
    (hrun : Run settings (start suites store site startedAt workers) turns c)
    (hcancelled : c.desk.site.cancelled = false) (hleft : c.left ≠ [])
    (hcareer : Career settings i (turnsOf i turns) .ended) :
    milestonesOf i turns = [.refused] ∨ milestonesOf i turns = [.opened, .killed] ∨
      milestonesOf i turns = [.opened, .lost, .closed] := by
  rcases hcareer.ended_cases with hrefused | hkilled | ⟨-, hstopped | hlost⟩
  · exact .inl hrefused
  · exact .inr (.inl hkilled)
  · have hi : i ∈ whose .stopped turns := by
      rw [mem_whose_iff, milestonesOf, hstopped]
      decide
    rcases settled_of_stopped hrun hi with hcancelled' | hqueue
    · rw [hcancelled] at hcancelled'
      cases hcancelled'
    · exact absurd hqueue hleft
  · exact .inr (.inr hlost)

/-- What is left in the queue is reported with the reason why it was left. -/
theorem notRun_mem_report
    (hrun : Run settings (start suites store site startedAt workers) turns c)
    {s : Suite} (hs : s ∈ c.left) :
    SuiteResult.notRun s c.leftReason ∈ (c.report suites).suites := by
  have hmem := (filter_report_perm hrun).mem_iff.mpr (List.mem_map_of_mem hs)
  exact (List.mem_filter.mp hmem).1

/-- A suite is reported as not run for want of a session only if it is left in the queue. -/
theorem left_ne_nil_of_notRun
    (hrun : Run settings (start suites store site startedAt workers) turns c)
    (hcancelled : c.desk.site.cancelled = false) {r : SuiteResult}
    (hr : r ∈ (c.report suites).suites)
    (houtcome : r.outcome = .failed none "not run: no browser session available") :
    c.left ≠ [] := by
  intro hleft
  have hreason : c.leftReason = "not run: no browser session available" := by
    rw [leftReason, hcancelled]
    rfl
  have hnone := filter_report_perm hrun
  rw [hleft, hreason] at hnone
  have hmem : r ∈ (c.report suites).suites.filter
      (·.outcome == .failed none "not run: no browser session available") :=
    List.mem_filter.mpr ⟨hr, beq_iff_eq.mpr houtcome⟩
  cases hnone.mem_iff.mp hmem

/-- If one worker opens its session, does not lose it and is not killed, then in a run that
has not been cancelled the queue is empty when all workers have ended, and no suite is reported
as not run for want of a session.  A suite is reported so only if each worker, and there is
one, was refused its session, lost it or was killed.  A run that has been cancelled stays so,
so one that is not in the end never was. -/
theorem queue_emptied_by_survivor {threads : Nat} (hthreads : 0 < threads) (hne : suites ≠ [])
    (hrun : Run settings (start suites store site startedAt (workerCount threads suites.length))
      turns c)
    (hover : c.Over) (hcancelled : c.desk.site.cancelled = false) :
    (∀ i ∈ whose .opened turns, i ∉ whose .lost turns → i ∉ whose .killed turns →
        c.desk.queue.suites = [] ∧ ∀ r ∈ (c.report suites).suites,
          r.outcome ≠ .failed none "not run: no browser session available") ∧
      ∀ r ∈ (c.report suites).suites,
        r.outcome = .failed none "not run: no browser session available" →
          c.workers ≠ [] ∧ ∀ i < c.workers.length,
            i ∈ whose .refused turns ∨ i ∈ whose .lost turns ∨ i ∈ whose .killed turns := by
  refine ⟨fun i hopened hlost hkilled => ?_, fun r hr houtcome => ⟨?_, fun i hi => ?_⟩⟩
  · have hleft : c.left = [] := by
      refine Classical.byContradiction fun hleft => ?_
      have hcareer := career_of_over hrun hover hopened
      rw [mem_whose_iff] at hopened hlost hkilled
      rcases milestones_of_left hrun hcancelled hleft hcareer with hms | hms | hms <;>
        simp [hms] at hopened hlost hkilled
    exact ⟨hleft, fun r hr houtcome => left_ne_nil_of_notRun hrun hcancelled hr houtcome hleft⟩
  · exact workers_ne_nil_of_run hthreads hrun hne
  · have hleft := left_ne_nil_of_notRun hrun hcancelled hr houtcome
    have hcareer := career_of_run hrun (List.getElem?_eq_getElem hi)
    rw [hover _ (List.getElem_mem hi)] at hcareer
    rw [mem_whose_iff, mem_whose_iff, mem_whose_iff]
    rcases milestones_of_left hrun hcancelled hleft hcareer with hms | hms | hms <;>
      simp [hms]

/-- One of two workers loses its session, and the other one empties the queue.  If both lose
their sessions, a suite is left for want of one. -/
theorem queue_emptied_by_survivor_stranded :
    (let first := travellers ["a", "b", "c", "d"] ["/b"]
      let turns := first.history ⟨0, 0, .standard⟩ 60
      let c := first.advance ⟨0, 0, .standard⟩ 60
      Run ⟨0, 0, .standard⟩ first turns c ∧ c.Over ∧ 0 ∈ whose .opened turns ∧
        1 ∈ whose .lost turns ∧ c.desk.queue.suites = [] ∧
        ∀ r ∈ (c.report (["a", "b", "c", "d"].map visit)).suites,
          r.outcome ≠ .failed none "not run: no browser session available") ∧
    (let first := travellers ["a", "b", "c", "d"] ["/b", "/c"]
      let turns := first.history ⟨0, 0, .standard⟩ 60
      let c := first.advance ⟨0, 0, .standard⟩ 60
      Run ⟨0, 0, .standard⟩ first turns c ∧ c.Over ∧
        (∃ r ∈ (c.report (["a", "b", "c", "d"].map visit)).suites,
          r.outcome = .failed none "not run: no browser session available") ∧
        c.workers ≠ [] ∧ ∀ i < c.workers.length,
          i ∈ whose .refused turns ∨ i ∈ whose .lost turns ∨ i ∈ whose .killed turns) := by
  constructor
  · intro first turns c
    have hrun : Run ⟨0, 0, .standard⟩ first turns c := run_advance .nil 60
    have hover : c.Over := over_advance (by decide +kernel)
    have hopened : 0 ∈ whose .opened turns := by decide +kernel
    obtain ⟨hsurvivor, -⟩ := queue_emptied_by_survivor Nat.two_pos (by decide) hrun hover
      (by decide +kernel)
    exact ⟨hrun, hover, hopened, by decide +kernel,
      hsurvivor 0 hopened (by decide +kernel) (by decide +kernel)⟩
  · intro first turns c
    have hrun : Run ⟨0, 0, .standard⟩ first turns c := run_advance .nil 60
    have hover : c.Over := over_advance (by decide +kernel)
    have hcancelled : c.desk.site.cancelled = false := by decide +kernel
    obtain ⟨-, hnotRun⟩ := queue_emptied_by_survivor Nat.two_pos (by decide) hrun hover
      hcancelled
    have hreported : SuiteResult.notRun (visit "d") "not run: no browser session available" ∈
        (c.report (["a", "b", "c", "d"].map visit)).suites := by
      have hleft : visit "d" ∈ c.left := by decide +kernel
      have hmem := notRun_mem_report hrun hleft
      rwa [leftReason, hcancelled] at hmem
    exact ⟨hrun, hover, ⟨_, hreported, rfl⟩, hnotRun _ hreported rfl⟩

end Crew

end BrowserSuite
