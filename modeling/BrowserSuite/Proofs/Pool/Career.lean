import BrowserSuite.Proofs.Pool.Ledger

/-!
# The careers of workers

The turns of one worker, in their order, lead it from phase to phase (`Career`).  On its way
it passes few milestones: it opens its session or is refused one, it stops because nothing is
left for it to do, it loses its session, a panic kills it, and it closes its session.

`Phase.Reached` lists which milestones lead to which phase.  That no worker passes one twice
and that a worker which has lost its session only closes it are read off that list, so each
of these facts is about one worker, whatever the others do in between (`career_of_run`).
-/

namespace BrowserSuite

/-! ## From phase to phase -/

/-- The ways in which a worker goes on. -/
inductive Phase.Moves (settings : PageSettings) : Phase → Phase → Prop
  | waits {p : Phase} (hcall : p.call?.isSome = true) : Moves settings p p
  | opens : Moves settings .opening .idle
  | refused : Moves settings .opening .ended
  | stops : Moves settings .idle .closing
  | takes (suite : Suite) : Moves settings .idle (.running suite (suite.run settings))
  | answers (suite : Suite) {r : Effect Handle} (next : r.Reply Handle → _)
      (reply : r.Reply Handle) :
      Moves settings (.running suite (.ask r next)) (.running suite (next reply))
  | finishes (suite : Suite) {run : SuiteRun} (hfatal : run.fatal = none) :
      Moves settings (.running suite (.done (.value run))) .idle
  | loses (suite : Suite) {run : SuiteRun} (hfatal : run.fatal.isSome = true) :
      Moves settings (.running suite (.done (.value run))) .closing
  | dies (suite : Suite) (p : Panic) : Moves settings (.running suite (.done (.panicked p))) .ended
  | closes : Moves settings .closing .ended

theorem Desk.Does.moves {settings : PageSettings} {d e : Desk} {w v : Worker}
    (h : Desk.Does settings d w e v) : w.phase.Moves settings v.phase := by
  cases h with
  | waits hcall => exact .waits (by rw [hcall]; rfl)
  | opens hphase => rw [hphase]; exact .opens
  | refused hphase => rw [hphase]; exact .refused
  | stops hphase => rw [hphase]; exact .stops
  | takes hphase => rw [hphase]; exact .takes _
  | calls hphase | sleeps hphase | sleepsUntil hphase | asks hphase =>
      rw [hphase]
      exact .answers _ _ _
  | writes hphase =>
      rw [hphase]
      exact .answers (r := .log _) _ _ ()
  | @finishes suite run hphase =>
      rw [hphase]
      cases hfatal : run.fatal with
      | none => exact .finishes suite hfatal
      | some e => exact .loses suite (by rw [hfatal]; rfl)
  | dies hphase => rw [hphase]; exact .dies _ _
  | closes hphase => rw [hphase]; exact .closes

/-- What is worth noting in the career of a worker. -/
inductive Milestone where
  | opened
  | refused
  | stopped
  | lost
  | killed
  | closed
  deriving DecidableEq, Repr

/-- The milestones by which a worker comes to a phase. -/
inductive Phase.Reached : Phase → List Milestone → Prop
  | opening : Reached .opening []
  | idle : Reached .idle [.opened]
  | running (suite : Suite) (rest : Task Handle Empty SuiteRun) :
      Reached (.running suite rest) [.opened]
  | closing {m : Milestone} (hm : m = .stopped ∨ m = .lost) : Reached .closing [.opened, m]
  | refused : Reached .ended [.refused]
  | killed : Reached .ended [.opened, .killed]
  | closed {m : Milestone} (hm : m = .stopped ∨ m = .lost) : Reached .ended [.opened, m, .closed]

namespace Crew

/-- The milestone that a worker passes in a turn. -/
def Turn.milestone? (t : Turn) : Option Milestone :=
  match t.before, t.after with
  | .opening, .idle => some .opened
  | .opening, .ended => some .refused
  | .idle, .closing => some .stopped
  | .running _ (.done (.value run)), _ => if run.fatal.isSome then some .lost else none
  | .running _ (.done (.panicked _)), _ => some .killed
  | .closing, .ended => some .closed
  | _, _ => none

/-- The turns of one worker. -/
def turnsOf (i : Nat) (turns : List Turn) : List Turn := turns.filter fun t => t.worker == i

/-- The milestones of one worker. -/
def milestonesOf (i : Nat) (turns : List Turn) : List Milestone :=
  (turnsOf i turns).filterMap Turn.milestone?

/-- The workers that pass a milestone, in the order in which they do. -/
def whose (m : Milestone) (turns : List Turn) : List Nat :=
  (turns.filter fun t => t.milestone? == some m).map Turn.worker

/-- The turns of one worker from the beginning to some phase. -/
inductive Career (settings : PageSettings) (i : Nat) : List Turn → Phase → Prop
  | nil : Career settings i [] .opening
  | snoc {turns : List Turn} {p q : Phase} (h : Career settings i turns p)
      (hmoves : p.Moves settings q) : Career settings i (turns ++ [⟨i, p, q⟩]) q

variable {settings : PageSettings} {suites : List Suite} {c : Crew} {turns : List Turn}
  {store : Store} {site : Site} {startedAt : Moment} {workers i : Nat} {p : Phase}
  {m : Milestone}

/-! ## Milestones of a worker -/

theorem milestone?_of_waits (hcall : p.call?.isSome = true) :
    Turn.milestone? ⟨i, p, p⟩ = none := by
  cases p with
  | opening | closing => rfl
  | idle | ended => cases hcall
  | running suite rest =>
      cases rest with
      | done e => cases hcall
      | ask r next => rfl

/-- The milestones of a career are those that lead to its phase. -/
theorem Career.reached (h : Career settings i turns p) :
    p.Reached (turns.filterMap Turn.milestone?) := by
  induction h with
  | nil => exact .opening
  | @snoc turns p q _ hmoves ih =>
      rw [List.filterMap_append]
      -- the list before the turn is fixed by the phase that the worker was in
      generalize turns.filterMap Turn.milestone? = ms at ih
      cases hmoves with
      | waits hcall => simpa [milestone?_of_waits hcall] using ih
      | opens => cases ih; exact .idle
      | refused => cases ih; exact .refused
      | stops => cases ih; exact .closing (.inl rfl)
      | takes suite => cases ih; exact .running _ _
      | answers => cases ih; exact .running _ _
      | finishes suite hfatal => cases ih; simpa [Turn.milestone?, hfatal] using Phase.Reached.idle
      | loses suite hfatal =>
          cases ih
          simpa [Turn.milestone?, hfatal] using Phase.Reached.closing (.inr rfl)
      | dies => cases ih; exact .killed
      | closes =>
          cases ih with
          | closing hm => exact .closed hm

theorem nodup_of_reached {ms : List Milestone} (h : p.Reached ms) : ms.Nodup := by
  cases h with
  | closing hm | closed hm => rcases hm with rfl | rfl <;> decide
  | opening | idle | running | refused | killed => decide

/-- A session is lost on the way to two phases only. -/
theorem phase_of_lost {ms : List Milestone} (h : p.Reached ms) (hlost : .lost ∈ ms) :
    p = .closing ∨ p = .ended := by
  cases h with
  | closing => exact .inl rfl
  | refused | killed | closed => exact .inr rfl
  | opening | idle | running => simp at hlost

/-- A worker that has lost its session closes it, and does nothing else any more. -/
theorem Career.pairwise_of_lost (h : Career settings i turns p) :
    turns.Pairwise fun t u =>
      t.milestone? = some .lost → u.before = .closing ∧ u.after.suite? = none := by
  induction h with
  | nil => exact .nil
  | @snoc turns p q hcareer hmoves ih =>
      refine List.pairwise_append.mpr ⟨ih, List.pairwise_singleton _ _, ?_⟩
      intro t ht u hu hlost
      cases List.mem_singleton.mp hu
      have hmem : .lost ∈ turns.filterMap Turn.milestone? := List.mem_filterMap.mpr ⟨t, ht, hlost⟩
      rcases phase_of_lost hcareer.reached hmem with rfl | rfl
      · cases hmoves <;> exact ⟨rfl, rfl⟩
      · -- a worker that has ended takes no turn
        cases hmoves with
        | waits hcall => cases hcall

/-- A worker that has ended was refused a session, was killed, or has closed its session in its
last turn. -/
theorem Career.ended_cases (h : Career settings i turns .ended) :
    turns.filterMap Turn.milestone? = [.refused] ∨
      turns.filterMap Turn.milestone? = [.opened, .killed] ∨
        (∃ earlier, turns = earlier ++ [⟨i, .closing, .ended⟩]) ∧
          (turns.filterMap Turn.milestone? = [.opened, .stopped, .closed] ∨
            turns.filterMap Turn.milestone? = [.opened, .lost, .closed]) := by
  cases h with
  | @snoc earlier p _ hcareer hmoves =>
      have hreached := hcareer.reached
      rw [List.filterMap_append]
      generalize earlier.filterMap Turn.milestone? = ms at hreached
      cases hmoves with
      | waits hcall => cases hcall
      | refused => cases hreached; exact .inl rfl
      | dies => cases hreached; exact .inr (.inl rfl)
      | closes =>
          cases hreached with
          | closing hm =>
              refine .inr (.inr ⟨⟨earlier, rfl⟩, ?_⟩)
              rcases hm with rfl | rfl
              · exact .inl rfl
              · exact .inr rfl

/-! ## Milestones of a run -/

theorem turnsOf_snoc (turns : List Turn) (t : Turn) :
    turnsOf i (turns ++ [t]) = if t.worker = i then turnsOf i turns ++ [t] else turnsOf i turns := by
  unfold turnsOf
  rw [List.filter_append]
  by_cases hi : t.worker = i
  · simp [hi]
  · simp [hi]

/-- The turns of each worker are a career. -/
theorem career_of_run (h : Run settings (start suites store site startedAt workers) turns c)
    {w : Worker} (hw : c.workers[i]? = some w) : Career settings i (turnsOf i turns) w.phase := by
  induction h generalizing i w with
  | nil =>
      obtain ⟨k, -, rfl⟩ := List.mem_map.mp (List.mem_of_getElem? hw)
      exact .nil
  | @turn turns c k time u v e _ hu hlive _ hstep ih =>
      have hmoves := (Desk.does_of_step hlive hstep).moves
      -- the turn belongs to the career of one worker, and those of the others stay as they are
      refine forall_worker_set hu
        (P := fun j x => Career settings j (turnsOf j (turns ++ [⟨k, u.phase, v.phase⟩])) x.phase)
        ?_ ?_ i w hw
      · rw [turnsOf_snoc, if_pos rfl]
        exact (ih hu).snoc hmoves
      · intro j x hj hx
        rw [turnsOf_snoc, if_neg (Ne.symm hj)]
        exact ih hx
  | cancel _ ih => exact ih hw

/-- Whoever takes a turn is one of the workers. -/
theorem worker_lt_of_run (h : Run settings (start suites store site startedAt workers) turns c)
    {t : Turn} (ht : t ∈ turns) : t.worker < c.workers.length := by
  induction h with
  | nil => cases ht
  | turn _ hu _ _ _ ih =>
      rw [List.length_set]
      rcases List.mem_append.mp ht with ht | ht
      · exact ih ht
      · rw [List.mem_singleton.mp ht]
        exact (List.getElem?_eq_some_iff.mp hu).1
  | cancel _ ih => exact ih ht

/-- Whether or not there is such a worker, its turns are a career. -/
theorem exists_career_of_run
    (h : Run settings (start suites store site startedAt workers) turns c) (i : Nat) :
    ∃ p, Career settings i (turnsOf i turns) p := by
  by_cases hi : i < c.workers.length
  · exact ⟨_, career_of_run h (List.getElem?_eq_getElem hi)⟩
  · have hnone : turnsOf i turns = [] := by
      refine List.filter_eq_nil_iff.mpr fun t ht hworker => hi ?_
      rw [← eq_of_beq hworker]
      exact worker_lt_of_run h ht
    rw [hnone]
    exact ⟨_, .nil⟩

theorem count_whose (m : Milestone) (turns : List Turn) (i : Nat) :
    (whose m turns).count i = (milestonesOf i turns).count m := by
  unfold whose milestonesOf turnsOf
  rw [List.count, List.count, List.countP_map, List.countP_filterMap, List.countP_filter,
    List.countP_filter]
  refine List.countP_congr fun t _ => ?_
  cases t.milestone? <;> simp [and_comm]

theorem mem_whose_iff : i ∈ whose m turns ↔ m ∈ milestonesOf i turns := by
  rw [← List.count_pos_iff, count_whose, List.count_pos_iff]

/-- No worker passes a milestone twice. -/
theorem nodup_whose (h : Run settings (start suites store site startedAt workers) turns c)
    (m : Milestone) : (whose m turns).Nodup := by
  refine List.nodup_iff_count_le_one.mpr fun i => ?_
  obtain ⟨p, hcareer⟩ := exists_career_of_run h i
  rw [count_whose]
  exact List.nodup_iff_count_le_one.mp (nodup_of_reached hcareer.reached) m

/-- When all workers have ended, so has the career of whoever passed a milestone. -/
theorem career_of_over (h : Run settings (start suites store site startedAt workers) turns c)
    (hover : c.Over) (hi : i ∈ whose m turns) : Career settings i (turnsOf i turns) .ended := by
  obtain ⟨t, ht, rfl⟩ := List.mem_map.mp hi
  have hlt := worker_lt_of_run h (List.mem_filter.mp ht).1
  have hcareer := career_of_run h (List.getElem?_eq_getElem hlt)
  rwa [hover _ (List.getElem_mem hlt)] at hcareer

end Crew

end BrowserSuite
