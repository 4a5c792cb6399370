import BrowserSuite.Engine.Pool
import BrowserSuite.Proofs.Pool.Step

/-!
# Runs under any interleaving

`Crew.finish` is one way for the workers to take turns.  `Run` admits every way:
any worker that has not ended may take the next turn, whether or not its pause is
over, at any time that is not before the last one, and the run may be cancelled
between any two turns.  A run keeps its turns as a history.

`Run.ends` says that every run can be brought to its end, where all workers have
ended: the pool's own strategy does so from any moment (`run_finish`, `over_finish`).
-/

namespace BrowserSuite

namespace Crew

/-- One turn of a run: whose it was, and what that worker was doing before and
after it. -/
structure Turn where
  worker : Nat
  before : Phase
  after : Phase

/-- A crew whose run has been cancelled. -/
def cancel (c : Crew) : Crew :=
  { c with desk := { c.desk with site := { c.desk.site with cancelled := true } } }

/-- The runs that begin with a crew, each with the history of its turns. -/
inductive Run (settings : PageSettings) (first : Crew) : List Turn → Crew → Prop
  | nil : Run settings first [] first
  | turn {turns : List Turn} {c : Crew} {i time : Nat} {w v : Worker} {e : Desk}
      (h : Run settings first turns c) (hw : c.workers[i]? = some w) (hlive : w.phase ≠ .ended)
      (htime : c.desk.site.clock ≤ time)
      (hstep : { c.desk with site := c.desk.site.advance time }.step settings w = (e, v)) :
      Run settings first (turns ++ [⟨i, w.phase, v.phase⟩]) ⟨e, c.workers.set i v⟩
  | cancel {turns : List Turn} {c : Crew} (h : Run settings first turns c) :
      Run settings first turns c.cancel

/-- All workers have ended. -/
def Over (c : Crew) : Prop := ∀ w ∈ c.workers, w.phase = .ended

variable {settings : PageSettings} {first c d : Crew} {turns : List Turn}

/-! ## The strategy of the pool -/

theorem eq_ended_of_stage {p : Phase} (h : p.stage = 0) : p = .ended := by
  cases p <;> simp_all [Phase.stage]

theorem mem_of_foldl_earlier {candidates : List (Worker × Nat)} {best : Option (Worker × Nat)}
    {c : Worker × Nat} (h : candidates.foldl earlier best = some c) :
    best = some c ∨ c ∈ candidates := by
  induction candidates generalizing best with
  | nil => exact .inl h
  | cons x xs ih =>
      rcases ih h with hx | hmem
      · unfold earlier at hx
        split at hx
        · exact .inr (by simp_all)
        · split at hx <;> simp_all
      · exact .inr (List.mem_cons_of_mem _ hmem)

theorem foldl_earlier_ne_none {candidates : List (Worker × Nat)} {best : Option (Worker × Nat)}
    (h : best ≠ none ∨ candidates ≠ []) : candidates.foldl earlier best ≠ none := by
  induction candidates generalizing best with
  | nil => simpa using h
  | cons x xs ih =>
      refine ih (.inl ?_)
      unfold earlier
      split
      · simp
      · split <;> simp

/-- The worker that is due is there and has not ended. -/
theorem live_of_due? {workers : List Worker} {i : Nat} (h : due? workers = some i) :
    ∃ w, workers[i]? = some w ∧ w.phase.stage ≠ 0 := by
  obtain ⟨⟨w, j⟩, hfold, rfl⟩ := Option.map_eq_some_iff.mp h
  obtain hnone | hmem := mem_of_foldl_earlier hfold
  · cases hnone
  · obtain ⟨hmem, hlive⟩ := List.mem_filter.mp hmem
    exact ⟨w, List.mem_zipIdx_iff_getElem?.mp hmem, by simpa using hlive⟩

theorem over_of_due? {workers : List Worker} (h : due? workers = none) :
    ∀ w ∈ workers, w.phase = .ended := by
  intro w hw
  refine Classical.byContradiction fun hlive => ?_
  obtain ⟨i, hi⟩ := List.mem_iff_getElem?.mp hw
  refine foldl_earlier_ne_none (.inr ?_) (Option.map_eq_none_iff.mp h)
  refine List.ne_nil_of_mem (a := (w, i)) (List.mem_filter.mpr ⟨?_, ?_⟩)
  · exact List.mem_zipIdx_iff_getElem?.mpr hi
  · simpa using fun hstage => hlive (eq_ended_of_stage hstage)

/-- There is a next step as long as some worker has not ended. -/
theorem over_of_next? (h : c.next? settings = none) : c.Over := by
  unfold next? at h
  split at h
  · rename_i hdue
    exact over_of_due? hdue
  · rename_i i hdue
    obtain ⟨w, hw, hstage⟩ := live_of_due? hdue
    simp [hw, hstage] at h

/-- The phase of the worker in some place. -/
def phaseAt (c : Crew) (i : Nat) : Phase := (c.workers[i]?.map Worker.phase).getD .ended

/-- The turn from a crew to its next one.  It is that of the worker that is due. -/
def turnTo (c d : Crew) : Turn :=
  let i := (due? c.workers).getD 0
  ⟨i, c.phaseAt i, d.phaseAt i⟩

theorem turnTo_of_due? {i : Nat} {w v : Worker} {e : Desk} (hdue : due? c.workers = some i)
    (hw : c.workers[i]? = some w) :
    c.turnTo ⟨e, c.workers.set i v⟩ = ⟨i, w.phase, v.phase⟩ := by
  obtain ⟨hlength, rfl⟩ := List.getElem?_eq_some_iff.mp hw
  simp [turnTo, phaseAt, hdue, hlength]

/-- The next step of the pool is a turn. -/
theorem Run.next? (h : Run settings first turns c) (hnext : c.next? settings = some d) :
    Run settings first (turns ++ [c.turnTo d]) d := by
  unfold Crew.next? at hnext
  split at hnext
  · cases hnext
  · rename_i i hdue
    split at hnext
    · cases hnext
    · rename_i w hw
      split at hnext
      · cases hnext
      · rename_i hstage
        cases hnext
        have hlive : w.phase ≠ .ended := fun hended => hstage (by rw [hended]; rfl)
        rw [turnTo_of_due? hdue hw]
        exact h.turn hw hlive (Nat.le_max_left ..) rfl

theorem finish_of_next?_eq_none (h : c.next? settings = none) : c.finish settings = c := by
  rw [finish]
  split
  · rfl
  · rename_i hsome
    rw [h] at hsome
    cases hsome

theorem finish_of_next?_eq_some (h : c.next? settings = some d) :
    c.finish settings = d.finish settings := by
  rw [finish]
  split
  · rename_i hnone
    rw [h] at hnone
    cases hnone
  · rename_i hsome
    rw [h] at hsome
    cases hsome
    rfl

/-- The pool goes on from any moment of a run. -/
theorem run_finish (h : Run settings first turns c) :
    ∃ more, Run settings first (turns ++ more) (c.finish settings) := by
  -- the recursion is that of `finish`; the history grows along it
  induction c using Crew.finish.induct settings generalizing turns with
  | case1 c hnone =>
      rw [finish_of_next?_eq_none hnone]
      exact ⟨[], by simpa using h⟩
  | case2 c d hsome ih =>
      obtain ⟨more, hmore⟩ := ih (h.next? hsome)
      rw [finish_of_next?_eq_some hsome]
      exact ⟨c.turnTo d :: more, by simpa using hmore⟩

theorem over_finish (settings : PageSettings) (c : Crew) : (c.finish settings).Over := by
  induction c using Crew.finish.induct settings with
  | case1 c hnone =>
      rw [finish_of_next?_eq_none hnone]
      exact over_of_next? hnone
  | case2 c d hsome ih =>
      rw [finish_of_next?_eq_some hsome]
      exact ih

/-- Every run can be brought to an end. -/
theorem Run.ends (h : Run settings first turns c) :
    ∃ more d, Run settings first (turns ++ more) d ∧ d.Over := by
  obtain ⟨more, hmore⟩ := run_finish h
  exact ⟨more, _, hmore, over_finish settings c⟩

/-- A whole run, as the pool lets the workers take turns, is a run to its end. -/
theorem run_runSuites (settings : PageSettings) (threads : Nat) (suites : List Suite)
    (store : Store) (site : Site) (startedAt : Moment) :
    ∃ turns, Run settings (start suites store site startedAt (workerCount threads suites.length))
        turns (runSuites settings threads suites store site startedAt) ∧
      (runSuites settings threads suites store site startedAt).Over := by
  obtain ⟨turns, hrun⟩ := run_finish .nil
  exact ⟨turns, hrun, over_finish settings _⟩

/-- The crew after some steps of the pool. -/
def advance (settings : PageSettings) : Nat → Crew → Crew
  | 0, c => c
  | n + 1, c =>
    match c.next? settings with
    | none => c
    | some d => advance settings n d

/-- The turns of some steps of the pool. -/
def history (settings : PageSettings) : Nat → Crew → List Turn
  | 0, _ => []
  | n + 1, c =>
    match c.next? settings with
    | none => []
    | some d => c.turnTo d :: history settings n d

/-- Some steps of the pool are turns. -/
theorem run_advance (h : Run settings first turns c) (n : Nat) :
    Run settings first (turns ++ c.history settings n) (c.advance settings n) := by
  induction n generalizing c turns with
  | zero => simpa [history, advance] using h
  | succ n ih =>
      unfold advance history
      split
      · simpa using h
      · rename_i d hnext
        simpa using ih (h.next? hnext)

/-- A crew without a next step after some steps has ended its run. -/
theorem over_advance {n : Nat} (h : ((c.advance settings n).next? settings).isNone = true) :
    (c.advance settings n).Over :=
  over_of_next? (Option.isNone_iff_eq_none.mp h)

/-- A crew without a next step is the one that the pool ends with. -/
theorem finish_eq_advance {n : Nat} (h : (c.advance settings n).next? settings = none) :
    c.finish settings = c.advance settings n := by
  induction n generalizing c with
  | zero => exact finish_of_next?_eq_none h
  | succ n ih =>
      unfold advance at h ⊢
      split at h
      · rename_i hnone
        rw [finish_of_next?_eq_none hnone]
      · rename_i hsome
        rw [finish_of_next?_eq_some hsome]
        exact ih h

end Crew

end BrowserSuite
