import BrowserSuite.Proofs.Pool.Accounting
import BrowserSuite.Proofs.SuiteRun.Course
import Mathlib.Data.List.Perm.Subperm

/-!
# After a cancellation

Once a run has been cancelled it stays cancelled, and its workers only wind down.  A worker
that looks for a suite takes none, and a suite run that looks at the cancellation starts no
further action; `Does.windsDown` says so of one step and `Remnant` of the suites that were
in hand, which go on until they end or take their worker with them.

`cancellation_stops_work` follows a run from the moment at which it is cancelled, whether
that is between two turns, because the time has come (`Crew.later`), or by a session call.
-/

namespace BrowserSuite

namespace Desk

variable {settings : PageSettings} {d e : Desk} {w v : Worker}

/-! ## One step -/

/-- What a step can do when the run has been cancelled: a call waits for the delay of its
rule, a worker without a suite stays without one, and a suite run goes on or ends. -/
inductive WindsDown (d e : Desk) : Phase → Phase → Prop
  | waits {p : Phase} {call : String × String} (hcall : p.call? = some call)
      (hfinished : e.finished = d.finished) : WindsDown d e p p
  | rests {p q : Phase} (hbefore : p.suite? = none) (hafter : q.suite? = none)
      (hfinished : e.finished = d.finished) : WindsDown d e p q
  | answers {suite : Suite} {r : Effect Handle} {next : r.Reply Handle → _}
      (reply : r.Reply Handle) (hreply : Task.Step.starts (⟨r, reply⟩ : Task.Step Handle) = false)
      (hfinished : e.finished = d.finished) :
      WindsDown d e (.running suite (.ask r next)) (.running suite (next reply))
  | finishes {q : Phase} {suite : Suite} {run : SuiteRun}
      (hfinished : e.finished = d.finished ++ [run.result]) (hafter : q.suite? = none) :
      WindsDown d e (.running suite (.done (.value run))) q
  | loses {suite : Suite} {p : Panic} (hfinished : e.finished = d.finished) :
      WindsDown d e (.running suite (.done (.panicked p))) .ended

/-- No result is taken back. -/
theorem WindsDown.finished_subset {p q : Phase} (h : WindsDown d e p q) :
    d.finished ⊆ e.finished := by
  cases h with
  | waits _ hfinished | rests _ _ hfinished | answers _ _ hfinished | loses hfinished =>
      rw [hfinished]
      exact List.Subset.refl _
  | finishes hfinished => simp [hfinished]

theorem cancelled_underWay {op key : String} {rule : Option Scripted.Rule} {site : Site}
    (h : d.underWay w op key = (rule, site)) : site.cancelled = d.site.cancelled := by
  unfold underWay at h
  split at h
  · cases h
    rfl
  · have hsite := congrArg (fun started => started.2.cancelled) h
    exact hsite.symm

theorem cancelled_endCall {α : Type} {s s' : Site} {rule : Option Scripted.Rule}
    {proceed : Scripted → Ending BrowserError α × Scripted} {reply : Ending BrowserError α}
    (h : s.endCall rule proceed = (reply, s')) (hs : s.cancelled = true) : s'.cancelled = true := by
  have hsite := congrArg (fun ended => ended.2.cancelled) h
  rw [← hsite]
  simp [Site.endCall, hs]

/-- A cancelled run stays cancelled, and its workers wind down. -/
theorem Does.windsDown (h : Does settings d w e v) (hcancelled : d.site.cancelled = true) :
    e.queue = d.queue ∧ e.site.cancelled = true ∧ WindsDown d e w.phase v.phase := by
  cases h with
  | waits hcall _ hstart =>
      have hsite := congrArg (fun started => started.2.cancelled) hstart
      exact ⟨rfl, hsite.symm.trans hcancelled, .waits hcall rfl⟩
  | opens hphase hway hreply | refused hphase hway hreply | closes hphase hway hreply =>
      have hsite := cancelled_endCall hreply ((cancelled_underWay hway).trans hcancelled)
      exact ⟨rfl, hsite, .rests (by rw [hphase]; rfl) rfl rfl⟩
  | stops hphase => exact ⟨rfl, hcancelled, .rests (by rw [hphase]; rfl) rfl rfl⟩
  | takes _ hgo => exact absurd hcancelled (by simp [hgo])
  | calls hphase hway hreply =>
      have hsite := cancelled_endCall hreply ((cancelled_underWay hway).trans hcancelled)
      rw [hphase]
      exact ⟨rfl, hsite, .answers _ rfl rfl⟩
  | sleeps hphase | sleepsUntil hphase =>
      rw [hphase]
      exact ⟨rfl, hcancelled, .answers _ rfl rfl⟩
  | writes hphase =>
      rw [hphase]
      exact ⟨rfl, hcancelled, .answers (r := .log _) () rfl rfl⟩
  | @asks _ r _ _ _ hphase hlocal hreply =>
      rw [hphase]
      have hsite : (World.answer ⟨d.site, w.store, []⟩ r).2.site.cancelled = true := by
        cases r <;> first | exact hcancelled | cases hlocal
      have hstarts : Task.Step.starts
          (⟨r, (World.answer ⟨d.site, w.store, []⟩ r).1⟩ : Task.Step Handle) = false := by
        cases r <;> simp [Task.Step.starts, World.answer, hcancelled]
      rw [hreply] at hsite hstarts
      exact ⟨rfl, hsite, .answers _ hstarts rfl⟩
  | finishes hphase =>
      rw [hphase]
      exact ⟨rfl, hcancelled, .finishes rfl (by split <;> rfl)⟩
  | dies hphase =>
      rw [hphase]
      exact ⟨rfl, hcancelled, .loses rfl⟩

end Desk

namespace Crew

variable {settings : PageSettings} {c d : Crew} {turns more : List Turn} {suite : Suite}
  {rest : Task Handle Empty SuiteRun} {finished : List SuiteResult} {p : Phase} {killed : Prop}

/-! ## Suites in hand -/

/-- What has become of a suite run of which `rest` was left at the cancellation: it has
started no further action. -/
inductive Remnant (suite : Suite) (rest : Task Handle Empty SuiteRun)
    (finished : List SuiteResult) (killed : Prop) : Phase → Prop
  | running {after : List (Task.Step Handle)} {left : Task Handle Empty SuiteRun}
      (hleads : Program.Leads rest after left) (hstarted : Task.started after = 0) :
      Remnant suite rest finished killed (.running suite left)
  | finished {after : List (Task.Step Handle)} {run : SuiteRun} {p : Phase}
      (hends : rest.Ends after (.value run)) (hstarted : Task.started after = 0)
      (hresult : run.result ∈ finished) (hphase : p.suite? = none) :
      Remnant suite rest finished killed p
  | lost {p : Phase} (hkilled : killed) (hphase : p.suite? = none) :
      Remnant suite rest finished killed p

/-- Results are only added, and who was killed stays killed. -/
theorem Remnant.mono {more : List SuiteResult} {killed' : Prop}
    (h : Remnant suite rest finished killed p) (hmore : finished ⊆ more)
    (hkilled : killed → killed') : Remnant suite rest more killed' p := by
  cases h with
  | running hleads hstarted => exact .running hleads hstarted
  | finished hends hstarted hresult hphase =>
      exact .finished hends hstarted (hmore hresult) hphase
  | lost hkill hphase => exact .lost (hkilled hkill) hphase

/-- The worker that has a suite in hand takes a step. -/
theorem Remnant.step {b e : Desk} {q : Phase} {killed' : Prop}
    (h : Remnant suite rest b.finished killed p) (hsteps : Desk.WindsDown b e p q)
    (hkilled : killed ∨ (∃ panic, p = .running suite (.done (.panicked panic))) → killed') :
    Remnant suite rest e.finished killed' q := by
  have hmono := h.mono hsteps.finished_subset (hkilled ∘ .inl)
  cases hsteps with
  | waits => exact hmono
  | rests hbefore hafter =>
      cases hmono with
      | running => cases hbefore
      | finished hends hstarted hresult => exact .finished hends hstarted hresult hafter
      | lost hkill => exact .lost hkill hafter
  | answers reply hreply =>
      cases hmono with
      | running hleads hstarted =>
          refine .running (hleads.snoc reply) ?_
          simp [hstarted, hreply]
      | finished _ _ _ hphase | lost _ hphase => cases hphase
  | finishes hfinished hafter =>
      cases hmono with
      | running hleads hstarted => exact .finished hleads hstarted (by simp [hfinished]) hafter
      | finished _ _ _ hphase | lost _ hphase => cases hphase
  | loses =>
      cases hmono with
      | running => exact .lost (hkilled (.inr ⟨_, rfl⟩)) rfl
      | finished _ _ _ hphase | lost _ hphase => cases hphase

/-! ## Runs -/

/-- A turn in which no suite is taken and no action is started. -/
def Turn.StartsNothing (t : Turn) : Prop :=
  (t.before.suite? = none → t.after.suite? = none) ∧
    ∀ suite next, t.before = .running suite (.ask .isCancelled next) →
      t.after = .running suite (next true)

theorem startsNothing_of_windsDown {b e : Desk} {q : Phase} (h : Desk.WindsDown b e p q)
    (i : Nat) : Turn.StartsNothing ⟨i, p, q⟩ := by
  cases h with
  | waits hcall =>
      refine ⟨id, ?_⟩
      rintro _ _ rfl
      cases hcall
  | rests hbefore hafter =>
      refine ⟨fun _ => hafter, ?_⟩
      rintro _ _ rfl
      cases hbefore
  | answers reply hreply =>
      refine ⟨nofun, ?_⟩
      rintro _ _ ⟨⟩
      cases reply with
      | true => rfl
      | false => cases hreply
  | finishes | loses => exact ⟨nofun, nofun⟩

/-- In one of some turns a panic escaped the suite that a worker was running, and took the
worker with it. -/
def Killed (turns : List Turn) (i : Nat) (suite : Suite) : Prop :=
  ∃ t ∈ turns, t.worker = i ∧ t.after = .ended ∧
    ∃ panic, t.before = .running suite (.done (.panicked panic))

theorem ended_of_panicked {b e : Desk} {q : Phase} {panic : Panic}
    (h : Desk.WindsDown b e p q) (hp : p = .running suite (.done (.panicked panic))) :
    q = .ended := by
  subst hp
  cases h with
  | waits hcall => cases hcall
  | rests hbefore => cases hbefore
  | loses => rfl

/-- How a run goes on that was cancelled. -/
structure WoundDown (c : Crew) (more : List Turn) (d : Crew) : Prop where
  turns : ∀ t ∈ more, t.StartsNothing
  queue : d.desk.queue = c.desk.queue
  cancelled : d.desk.site.cancelled = true
  inHand : ∀ (i : Nat) (w : Worker), c.workers[i]? = some w → ∀ suite rest,
    w.phase = .running suite rest →
      ∃ v, d.workers[i]? = some v ∧
        Remnant suite rest d.desk.finished (Killed more i suite) v.phase

/-- A turn of a worker after the cancellation. -/
theorem WoundDown.turn {i : Nat} {w v : Worker} {b e : Desk} (h : WoundDown c more d)
    (hw : d.workers[i]? = some w) (hfinished : b.finished = d.desk.finished)
    (hqueue : e.queue = d.desk.queue) (hcancelled : e.site.cancelled = true)
    (hwinds : Desk.WindsDown b e w.phase v.phase) :
    WoundDown c (more ++ [⟨i, w.phase, v.phase⟩]) ⟨e, d.workers.set i v⟩ where
  turns := List.forall_mem_append.mpr
    ⟨h.turns, List.forall_mem_singleton.mpr (startsNothing_of_windsDown hwinds i)⟩
  queue := hqueue.trans h.queue
  cancelled := hcancelled
  inHand := by
    intro k u hu suite rest hphase
    obtain ⟨x, hx, hremnant⟩ := h.inHand k u hu suite rest hphase
    rw [← hfinished] at hremnant
    have hkilled : Killed more k suite → Killed (more ++ [⟨i, w.phase, v.phase⟩]) k suite := by
      rintro ⟨t, ht, hkill⟩
      exact ⟨t, List.mem_append_left _ ht, hkill⟩
    by_cases hk : k = i
    · -- the worker in turn
      subst hk
      rw [hw] at hx
      cases hx
      have hlt := (List.getElem?_eq_some_iff.mp hw).1
      refine ⟨v, by simp [hlt], hremnant.step hwinds ?_⟩
      rintro (hkill | ⟨panic, hpanic⟩)
      · exact hkilled hkill
      · exact ⟨_, List.mem_append_right _ (List.mem_singleton_self _), rfl,
          ended_of_panicked hwinds hpanic, panic, hpanic⟩
    · exact ⟨x, by rwa [List.getElem?_set_ne (Ne.symm hk)],
        hremnant.mono hwinds.finished_subset hkilled⟩

/-- From a cancelled crew on, no turn starts anything. -/
theorem woundDown_of_run (hcancelled : c.desk.site.cancelled = true)
    (h : Run settings c more d) : WoundDown c more d := by
  induction h with
  | nil =>
      refine ⟨by simp, rfl, hcancelled, fun i w hw suite rest hphase => ⟨w, hw, ?_⟩⟩
      rw [hphase]
      exact .running (.nil _) rfl
  | @turn _ b i time w v e _ hw hlive _ hstep ih =>
      have hlater : (b.desk.site.advance time).cancelled = true := by
        simp [Site.advance, ih.cancelled]
      obtain ⟨hqueue, hstill, hwinds⟩ := (Desk.does_of_step hlive hstep).windsDown hlater
      exact ih.turn (b := { b.desk with site := b.desk.site.advance time }) hw rfl hqueue hstill
        hwinds
  | cancel _ ih => exact ⟨ih.turns, ih.queue, rfl, ih.inHand⟩

/-- A crew at a later time, before the next turn. -/
def later (c : Crew) (time : Nat) : Crew :=
  { c with desk := { c.desk with site := c.desk.site.advance time } }

/-- How a suite is reported that was in hand at the cancellation, `rest` of its run being
left: no action was started any more, and the last one that was decides the outcome together
with their number. -/
def ReportedAfter (settings : PageSettings) (suite : Suite) (rest : Task Handle Empty SuiteRun)
    (report : Report) : Prop :=
  ∃ before after run last, Program.Leads (suite.run settings) before rest ∧
    (suite.run settings).Ends (before ++ after) (.value run) ∧ Task.started after = 0 ∧
    SuiteRun.LastAction settings suite (before ++ after) last ∧
    run.result ∈ report.suites ∧ run.result.Concerns suite ∧
    run.result.outcome = suite.outcomeAfter (Task.started before) last

section Runs

variable {suites : List Suite} {store : Store} {site : Site} {startedAt : Moment}
  {workers time : Nat}

/-- From the moment at which a run is cancelled, no turn takes a suite or starts an action,
and the run comes to an end.  Then the report says that it was cancelled; the suites that no
worker had taken are reported as not run for that reason; and a suite in hand, unless a panic
has taken its worker with it, has ended as its last action has, has passed if no action was
left, or else was cancelled. -/
theorem cancellation_stops_work
    (hrun : Run settings (start suites store site startedAt workers) turns c)
    (hcancelled : (c.later time).desk.site.cancelled = true)
    (hmore : Run settings (c.later time) more d) :
    (∀ t ∈ more, t.StartsNothing) ∧ d.desk.queue = c.desk.queue ∧
      (∃ rest e, Run settings (c.later time) (more ++ rest) e ∧ e.Over) ∧
      (d.Over →
        (d.report suites).cancelled = true ∧
        (c.desk.queue.suites.map (SuiteResult.notRun · "run cancelled")).Subperm
          (d.report suites).suites ∧
        ∀ (i : Nat) (w : Worker) suite rest, c.workers[i]? = some w →
          w.phase = .running suite rest →
            Killed more i suite ∨ ReportedAfter settings suite rest (d.report suites)) := by
  have hdown := woundDown_of_run hcancelled hmore
  refine ⟨hdown.turns, hdown.queue, hmore.ends, fun hover => ⟨hdown.cancelled, ?_, ?_⟩⟩
  · have hleft : c.desk.queue.suites.map (SuiteResult.notRun · "run cancelled") =
        d.left.map (SuiteResult.notRun · d.leftReason) := by
      rw [leftReason, hdown.cancelled, left, hdown.queue]
      rfl
    have hresults : (d.left.map (SuiteResult.notRun · d.leftReason)).Sublist (d.results suites) :=
      (List.sublist_append_right ..).trans (List.sublist_append_left ..)
    rw [hleft]
    exact hresults.subperm.trans (List.mergeSort_perm ..).symm.subperm
  · intro i w suite rest hw hphase
    obtain ⟨v, hv, hremnant⟩ := hdown.inHand i w hw suite rest hphase
    rw [hover v (List.mem_of_getElem? hv)] at hremnant
    obtain ⟨before, hbefore⟩ := (accounts_of_run hrun).path i w hw suite rest hphase
    cases hremnant with
    | lost hkill => exact .inl hkill
    | @finished after run _ hends hstarted hresult =>
        have hwhole : (suite.run settings).Ends (before ++ after) (.value run) :=
          hbefore.trans hends
        obtain ⟨last, hlast, houtcome⟩ := SuiteRun.outcome_of_ends hwhole
        rw [Task.started_append, hstarted, Nat.add_zero] at houtcome
        have hreported : run.result ∈ (d.report suites).suites :=
          (List.mergeSort_perm ..).mem_iff.mpr
            (List.mem_append_left _ (List.mem_append_left _ hresult))
        exact .inr ⟨before, after, run, last, hbefore, hwhole, hstarted, hlast, hreported,
          Suite.concerns_of_ends hwhole, houtcome⟩

/-- Two suites, of which the first one pauses between its two actions. -/
def pausing : List Suite :=
  [⟨"s", [⟨"p", [⟨"delay", ["10"], 1⟩, ⟨"log", ["x"], 2⟩]⟩]⟩, ⟨"t", [⟨"q", []⟩]⟩]

/-- One worker in the pause of its first suite.  The run is going to be cancelled during it. -/
def paused : Crew :=
  (start pausing .empty (.start .blank (some 5) 0) ⟨0, 0⟩ 1).advance ⟨0, 0, .standard⟩ 7

/-- The second suite is not run, and the first one is reported by its last action. -/
theorem cancellation_stops_work_paused :
    ∃ w suite rest more d, paused.workers[0]? = some w ∧ w.phase = .running suite rest ∧
      Run ⟨0, 0, .standard⟩ (paused.later 5) more d ∧ d.Over ∧
        (d.report pausing).cancelled = true ∧
        [SuiteResult.notRun ⟨"t", [⟨"q", []⟩]⟩ "run cancelled"].Subperm (d.report pausing).suites ∧
        (Killed more 0 suite ∨
          ReportedAfter ⟨0, 0, .standard⟩ suite rest (d.report pausing)) := by
  have hrun : Run ⟨0, 0, .standard⟩ (start pausing .empty (.start .blank (some 5) 0) ⟨0, 0⟩ 1)
      _ paused := run_advance .nil 7
  obtain ⟨more, hmore⟩ : ∃ more, Run ⟨0, 0, .standard⟩ (paused.later 5) ([] ++ more)
      ((paused.later 5).finish ⟨0, 0, .standard⟩) := run_finish .nil
  have hcancelled : (paused.later 5).desk.site.cancelled = true := by decide +kernel
  obtain ⟨-, -, -, hreport⟩ := cancellation_stops_work hrun hcancelled hmore
  have hover := over_finish ⟨0, 0, .standard⟩ (paused.later 5)
  obtain ⟨hflag, hqueue, hjobs⟩ := hreport hover
  have hsuite : paused.suiteAt? 0 = some ⟨"s", pausing[0].pages⟩ := by decide +kernel
  obtain ⟨w, hw, hphase⟩ := Option.bind_eq_some_iff.mp hsuite
  obtain ⟨rest, hrest⟩ := Phase.running_of_suite? hphase
  have hleft : paused.desk.queue.suites = [⟨"t", [⟨"q", []⟩]⟩] := by decide +kernel
  rw [hleft] at hqueue
  exact ⟨w, _, rest, _, _, hw, hrest, hmore, hover, hflag, hqueue, hjobs 0 w _ rest hw hrest⟩

end Runs

end Crew

end BrowserSuite
