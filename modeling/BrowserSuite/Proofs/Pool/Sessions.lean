import BrowserSuite.Proofs.Browser.Panics
import BrowserSuite.Proofs.Pool.Career
import BrowserSuite.Proofs.SuiteRun.Course

/-!
# Every session is closed once

A session that was opened is closed by the worker that opened it, unless a panic takes that
worker with it.  So when all workers have ended, as many calls to quit have been made as
sessions were opened, less one for each worker that was killed (`sessions_closed_once`).

The count is kept along a run by what is still owed: a worker that has a session and has not
begun to close it owes one call to quit (`Balance`).  A call is counted when it begins, so a
worker that waits for the delay of this call owes nothing any more.

That no other call to quit is made is a fact about suites: on no path does one of them ask
for the end of its session (`Suite.asks_not_quit`).
-/

namespace BrowserSuite

/-! ## Suites do not quit -/

namespace PageRun

variable {E : Type}

theorem asks_not_quit_runActions (settings : PageSettings) (chain : Option (Chain E))
    (actions : List Action) :
    Task.Asks (· ≠ .call .quit) (runActions settings chain actions) := by
  induction actions generalizing chain with
  | nil => exact .pure ()
  | cons action rest ih =>
      have haction : Task.Asks (· ≠ .call .quit) (runAction settings.wait chain action) := by
        rw [runAction_eq]
        refine .bind (.ask nofun fun _ => .ended _) fun cancelled => ?_
        split
        · exact .fail _
        · exact (part_carryOut settings.wait chain action).asks_not_quit
      have hsettle := (part_settle (E := E) settings rest.length).asks_not_quit
      exact .bind haction fun _ => .bind hsettle fun _ => ih _

end PageRun

namespace SuiteRun

variable {E : Type} {Q : Effect E → Prop} {settings : PageSettings}

/-- What a suite asks is what its pages ask, and what it takes to report on them. -/
theorem asks_runPages (hread : Q .readStore) (hnow : Q .now) (hlog : ∀ message, Q (.log message))
    (hpages : ∀ page : Page, Task.Asks Q (page.run settings : Task E RunError Unit))
    (suite : Suite) (start : Nat) (pages : List Page) (done : List PageRecord) :
    Task.Asks Q (runPages settings suite start done pages : Task E Empty SuiteRun) := by
  have htell : ∀ message, Task.Asks Q (Task.log message : Task E Empty Unit) := by
    intro message
    exact .ask (hlog message) fun _ => .ended _
  have htime : Task.Asks Q (Task.now : Task E Empty Nat) := .ask hnow fun _ => .ended _
  induction pages generalizing done with
  | nil => exact .bind (htell _) fun _ => .bind htime fun _ => .pure _
  | cons page rest ih =>
      refine .bind (asks_announce hread hlog page) fun _ => .bind (hpages page).ending fun e => ?_
      split
      · exact ih _
      · refine .bind (htell _) fun _ => .bind (htell _) fun _ => .bind (htell _) fun _ => ?_
        exact .bind htime fun _ => .pure _

end SuiteRun

/-- A suite leaves it to its worker to end the session. -/
theorem Suite.asks_not_quit {E : Type} (settings : PageSettings) (suite : Suite) :
    Task.Asks (· ≠ .call .quit) (suite.run settings : Task E Empty SuiteRun) := by
  refine .bind (.ask nofun fun _ => .ended _) fun start => ?_
  refine SuiteRun.asks_runPages nofun nofun (fun message => nofun) (fun page => ?_) suite start _ _
  exact PageRun.asks_not_quit_runActions settings none page.actions

/-! ## Counting calls -/

namespace Scripted

variable {α : Type}

/-- How often calls of some kind have been made. -/
def callsMade (b : Scripted) (op : String) : Nat := (b.counts.lookup op).getD 0

theorem callsMade_startCall (b : Scripted) (op key other : String) :
    (b.startCall op key).2.callsMade other = b.callsMade other + if op = other then 1 else 0 := by
  change ((countCall op b.counts).lookup other).getD 0 = _
  unfold callsMade
  have hfound : (other == op) = decide (op = other) := by
    rw [Bool.beq_eq_decide_eq]
    exact decide_eq_decide.mpr eq_comm
  induction b.counts with
  | nil => by_cases hop : op = other <;> simp [countCall, List.lookup_cons, hfound, hop]
  | cons entry rest ih =>
      obtain ⟨name, n⟩ := entry
      by_cases hname : name = op
      · subst hname
        by_cases hop : name = other <;> simp [countCall, List.lookup_cons, hfound, hop]
      · -- the call is counted further on
        simp only [countCall, hname, List.lookup_cons, if_false]
        cases hother : other == name with
        | false => exact ih
        | true =>
            have hop : op ≠ other := fun hop => hname ((eq_of_beq hother).symm.trans hop.symm)
            simp [hop]

theorem callsMade_perform (b : Scripted) (c : Call Handle) (op : String) :
    (b.perform c).2.callsMade op = b.callsMade op :=
  perform_keeps (f := (·.callsMade op)) (fun _ _ _ _ _ => rfl) b c

theorem opened_perform (b : Scripted) (c : Call Handle) : (b.perform c).2.opened = b.opened :=
  perform_keeps (f := opened) (fun _ _ _ _ _ => rfl) b c

theorem opOf_eq_quit_iff {c : Call Handle} : opOf c = "quit" ↔ c = .quit := by
  cases c <;> simp [opOf]

end Scripted

namespace Site

variable {s s' : Site} {rule : Option Scripted.Rule} {α : Type}

theorem browser_endCall {proceed : Scripted → Ending BrowserError α × Scripted}
    {reply : Ending BrowserError α} (h : s.endCall rule proceed = (reply, s')) :
    Scripted.endCall rule s.browser proceed = (reply, s'.browser) := by
  have hreply := congrArg Prod.fst h
  have hsite := congrArg (fun ended => ended.2.browser) h
  exact Prod.ext hreply hsite

/-- To end a call in a session opens no session and makes no other call. -/
theorem books_endCall (op : String) {c : Call Handle} {reply : Ending BrowserError c.Reply}
    (h : s.endCall rule (·.perform c) = (reply, s')) :
    s'.browser.callsMade op = s.browser.callsMade op ∧ s'.browser.opened = s.browser.opened := by
  have hbrowser := congrArg Prod.snd (browser_endCall h)
  dsimp only at hbrowser
  rw [← hbrowser]
  rcases Scripted.endCall_cases rule s.browser (·.perform c) with hproceed | ⟨hsame, -⟩
  · rw [hproceed]
    exact ⟨Scripted.callsMade_perform .., Scripted.opened_perform ..⟩
  · rw [hsame]
    exact ⟨rfl, rfl⟩

/-- A session is opened exactly if the answer is a value. -/
theorem books_openSession (op : String) {reply : Ending BrowserError Unit}
    (h : s.endCall rule (·.openSession) = (reply, s')) :
    s'.browser.callsMade op = s.browser.callsMade op ∧
      s'.browser.opened = s.browser.opened + if reply = .value () then 1 else 0 := by
  have hended := browser_endCall h
  rcases Scripted.endCall_cases rule s.browser (·.openSession) with hproceed | ⟨hsame, hne⟩
  · rw [hended] at hproceed
    unfold Scripted.openSession at hproceed
    split at hproceed <;> obtain ⟨rfl, hbrowser⟩ := Prod.mk.inj hproceed <;> rw [hbrowser]
    · exact ⟨rfl, rfl⟩
    · exact ⟨rfl, rfl⟩
  · rw [hended] at hsame hne
    dsimp only at hsame
    rw [hsame, if_neg (hne ())]
    exact ⟨rfl, rfl⟩

end Site

/-! ## One step -/

/-- Whether a worker, by its phase and the rule that it holds, has a session that it has not
begun to close. -/
def Phase.owes (held : Option Scripted.Rule) : Phase → Bool
  | idle | running _ _ => true
  | closing => held.isNone
  | opening | ended => false

/-- A worker that waits for the delay of its call to quit has begun that call, and no longer
owes it. -/
theorem Phase.owes_of_waits {p : Phase} {op key : String} (hcall : p.call? = some (op, key))
    (hquit : ∀ suite next, p ≠ .running suite (.ask (.call .quit) next)) (r : Scripted.Rule) :
    (p.owes (some r)).toNat + (if op = "quit" then 1 else 0) = (p.owes none).toNat := by
  cases p with
  | idle | ended => cases hcall
  | opening | closing =>
      cases hcall
      rfl
  | running suite rest =>
      have hop : op ≠ "quit" := by
        cases rest with
        | done x => cases hcall
        | ask r next =>
            cases r with
            | call c =>
                cases hcall
                intro hop
                cases Scripted.opOf_eq_quit_iff.mp hop
                exact hquit suite next rfl
            | _ => cases hcall
      rw [if_neg hop]
      rfl

/-- Whether a worker still has to close its session. -/
def Worker.owes (w : Worker) : Bool := w.phase.owes w.held

namespace Desk

variable {settings : PageSettings} {d e : Desk} {w v : Worker} {rule : Option Scripted.Rule}
  {site : Site} {op key : String} {i : Nat}

/-- The calls to quit that have been made. -/
def quitCalls (d : Desk) : Nat := d.site.browser.callsMade "quit"

/-- A call is counted when it begins. -/
theorem books_underWay (other : String) (h : d.underWay w op key = (rule, site)) :
    site.browser.callsMade other = d.site.browser.callsMade other +
        (if w.held.isNone ∧ op = other then 1 else 0) ∧
      site.browser.opened = d.site.browser.opened := by
  unfold underWay at h
  cases hheld : w.held with
  | some r =>
      rw [hheld] at h
      cases h
      simp
  | none =>
      rw [hheld] at h
      have hsite := congrArg (fun started => started.2.browser) h
      dsimp only [Site.startCall] at hsite
      rw [← hsite]
      simp only [Option.isNone_none, true_and]
      exact ⟨Scripted.callsMade_startCall .., rfl⟩

/-- What a step adds to the books on both sides. -/
structure Books (d : Desk) (w : Worker) (t : Crew.Turn) (e : Desk) (v : Worker) : Prop where
  opened : e.site.browser.opened =
    d.site.browser.opened + if t.milestone? = some .opened then 1 else 0
  quits : e.quitCalls + (if t.milestone? = some .killed then 1 else 0) + v.owes.toNat =
    d.quitCalls + (if t.milestone? = some .opened then 1 else 0) + w.owes.toNat
  held : v.phase.call? = none → v.held = none

/-- A step on a call leaves to the books what begins with it and what it opens. -/
theorem books_of_call {t : Crew.Turn} (hway : d.underWay w op key = (rule, site))
    (hquits : e.quitCalls = site.browser.callsMade "quit")
    (hopened : e.site.browser.opened =
      site.browser.opened + if t.milestone? = some .opened then 1 else 0)
    (hkilled : t.milestone? ≠ some .killed)
    (howes : v.owes.toNat + (if w.held.isNone ∧ op = "quit" then 1 else 0) =
      (if t.milestone? = some .opened then 1 else 0) + w.owes.toNat)
    (hheld : v.phase.call? = none → v.held = none) : Books d w t e v := by
  obtain ⟨hbegun, hsame⟩ := books_underWay "quit" hway
  refine ⟨by rw [hopened, hsame], ?_, hheld⟩
  rw [hquits, hbegun, if_neg hkilled, quitCalls]
  omega

/-- A step that is about no call leaves the books as they are, unless it kills the worker. -/
theorem books_of_same {t : Crew.Turn} (hbrowser : e.site.browser = d.site.browser)
    (hopened : t.milestone? ≠ some .opened)
    (howes : (if t.milestone? = some .killed then 1 else 0) + v.owes.toNat = w.owes.toNat)
    (hheld : v.phase.call? = none → v.held = none) : Books d w t e v := by
  refine ⟨by rw [hbrowser, if_neg hopened, Nat.add_zero], ?_, hheld⟩
  rw [quitCalls, quitCalls, hbrowser, if_neg hopened]
  omega

theorem Does.books (h : Does settings d w e v) (hheld : w.phase.call? = none → w.held = none)
    (hquit : ∀ suite next, w.phase ≠ .running suite (.ask (.call .quit) next)) :
    Books d w ⟨i, w.phase, v.phase⟩ e v := by
  cases h with
  | @waits op key rule site _ _ _ hcall hnone hstart =>
      have hway : d.underWay w op key = (some rule, site) := by rw [underWay, hnone, hstart]
      have hmilestone : Crew.Turn.milestone? ⟨i, w.phase, w.phase⟩ = none :=
        Crew.milestone?_of_waits (by rw [hcall]; rfl)
      refine books_of_call hway rfl ?_ ?_ ?_ fun h => ?_
      · simp [hmilestone]
      · simp [hmilestone]
      · simpa [hmilestone, Worker.owes, hnone] using Phase.owes_of_waits hcall hquit rule
      · -- a worker that waits has a call to make
        dsimp only at h
        rw [hcall] at h
        cases h
  | opens hphase hway hreply =>
      obtain ⟨hquits, hopened⟩ := Site.books_openSession "quit" hreply
      refine books_of_call hway hquits ?_ ?_ ?_ fun _ => rfl <;>
        simp [hphase, hopened, Crew.Turn.milestone?, Worker.owes, Phase.owes]
  | refused hphase hway hreply hne =>
      obtain ⟨hquits, hopened⟩ := Site.books_openSession "quit" hreply
      refine books_of_call hway hquits ?_ ?_ ?_ fun _ => rfl <;>
        simp [hphase, hopened, hne, Crew.Turn.milestone?, Worker.owes, Phase.owes]
  | @calls suite c next _ _ _ _ hphase hway hreply =>
      have hc : Scripted.opOf c ≠ "quit" := by
        intro hop
        cases Scripted.opOf_eq_quit_iff.mp hop
        exact hquit suite next hphase
      obtain ⟨hquits, hopened⟩ := Site.books_endCall "quit" hreply
      refine books_of_call hway hquits ?_ ?_ ?_ fun _ => rfl <;>
        simp [hphase, hopened, hc, Crew.Turn.milestone?, Worker.owes, Phase.owes]
  | closes hphase hway hreply =>
      obtain ⟨hquits, hopened⟩ := Site.books_endCall "quit" hreply
      refine books_of_call hway hquits ?_ ?_ ?_ fun _ => rfl
      · simp [hphase, hopened, Crew.Turn.milestone?]
      · simp [hphase, Crew.Turn.milestone?]
      · cases hheld : w.held <;>
          simp [hphase, hheld, Crew.Turn.milestone?, Worker.owes, Phase.owes]
  | @asks suite r _ _ _ hphase hlocal hreply =>
      have hnone : w.held = none := hheld (by rw [hphase]; cases r <;> first | rfl | cases hlocal)
      have hbrowser : (World.answer ⟨d.site, w.store, []⟩ r).2.site.browser = d.site.browser := by
        cases r <;> first | rfl | cases hlocal
      rw [hreply] at hbrowser
      refine books_of_same hbrowser ?_ ?_ fun _ => hnone <;>
        simp [hphase, Crew.Turn.milestone?, Worker.owes, Phase.owes]
  | @finishes suite run hphase =>
      have hnone : w.held = none := hheld (by rw [hphase]; rfl)
      refine books_of_same rfl ?_ ?_ fun _ => hnone <;>
        cases hfatal : run.fatal <;>
          simp [hphase, hnone, hfatal, Crew.Turn.milestone?, Worker.owes, Phase.owes]
  | stops hphase | takes hphase | sleeps hphase | sleepsUntil hphase | writes hphase
  | dies hphase =>
      have hnone : w.held = none := hheld (by rw [hphase]; rfl)
      refine books_of_same rfl ?_ ?_ fun _ => hnone <;>
        simp [hphase, hnone, Crew.Turn.milestone?, Worker.owes, Phase.owes]

end Desk

namespace Crew

variable {settings : PageSettings} {suites : List Suite} {c : Crew} {turns : List Turn}
  {store : Store} {site : Site} {startedAt : Moment} {workers : Nat}

/-! ## Whole runs -/

theorem length_whose_snoc (m : Milestone) (turns : List Turn) (t : Turn) :
    (whose m (turns ++ [t])).length =
      (whose m turns).length + if t.milestone? = some m then 1 else 0 := by
  unfold whose
  rw [List.filter_append, List.map_append, List.length_append]
  by_cases hm : t.milestone? = some m
  · simp [hm]
  · simp [hm]

/-- Only the worker in turn changes what is owed. -/
theorem countP_owes_set {i : Nat} {w v : Worker} (hw : c.workers[i]? = some w) :
    (c.workers.set i v).countP Worker.owes + w.owes.toNat =
      c.workers.countP Worker.owes + v.owes.toNat := by
  obtain ⟨hi, rfl⟩ := List.getElem?_eq_some_iff.mp hw
  let others := (c.workers.take i).countP Worker.owes + (c.workers.drop (i + 1)).countP Worker.owes
  have hcount : ∀ u : Worker, (c.workers.set i u).countP Worker.owes = others + u.owes.toNat := by
    intro u
    rw [List.set_eq_take_append_cons_drop, if_pos hi, List.countP_append, List.countP_cons]
    cases u.owes <;> simp [others, Nat.add_assoc]
  have hsame := hcount c.workers[i]
  rw [List.set_getElem_self] at hsame
  rw [hcount v, hsame]
  omega

/-- Each session that was opened has been closed, is owed its end, or had its worker killed. -/
structure Balance (site : Site) (c : Crew) (turns : List Turn) : Prop where
  opened : c.desk.site.browser.opened = site.browser.opened + (whose .opened turns).length
  quits : c.desk.quitCalls + (whose .killed turns).length + c.workers.countP Worker.owes =
    site.browser.callsMade "quit" + (whose .opened turns).length
  held : ∀ w ∈ c.workers, w.phase.call? = none → w.held = none

theorem balance_of_run (h : Run settings (start suites store site startedAt workers) turns c) :
    Balance site c turns := by
  induction h with
  | nil =>
      have howes : (start suites store site startedAt workers).workers.countP Worker.owes = 0 := by
        rw [List.countP_eq_zero]
        intro w hw
        obtain ⟨i, -, rfl⟩ := List.mem_map.mp hw
        simp [Worker.owes, Phase.owes]
      refine ⟨rfl, ?_, fun w hw _ => ?_⟩
      · rw [howes]
        rfl
      · obtain ⟨i, -, rfl⟩ := List.mem_map.mp hw
        rfl
  | @turn turns c i time w v e hrun hw hlive _ hstep ih =>
      -- a path of the suite has led the worker to where it is, and on no path does it quit
      have hquit : ∀ suite next, w.phase ≠ .running suite (.ask (.call .quit) next) := by
        intro suite next hphase
        obtain ⟨steps, hleads⟩ := (accounts_of_run hrun).path i w hw suite _ hphase
        exact (suite.asks_not_quit settings).of_leads hleads rfl
      have hbooks := (Desk.does_of_step hlive hstep).books (i := i)
        (ih.held w (List.mem_of_getElem? hw)) hquit
      have hopened := hbooks.opened
      have hquits := hbooks.quits
      have howes := countP_owes_set (v := v) hw
      refine ⟨?_, ?_, fun u hu => ?_⟩
      · rw [length_whose_snoc, ← Nat.add_assoc, ← ih.opened]
        exact hopened
      · have hbalance := ih.quits
        have htime : Desk.quitCalls { c.desk with site := c.desk.site.advance time } =
            c.desk.quitCalls := rfl
        rw [htime] at hquits
        rw [length_whose_snoc, length_whose_snoc]
        dsimp only
        omega
      · rcases List.mem_or_eq_of_mem_set hu with hu | rfl
        · exact ih.held u hu
        · exact hbooks.held
  | cancel _ ih => exact ⟨ih.opened, ih.quits, ih.held⟩

/-- When all workers have ended, nothing is owed. -/
theorem countP_owes_of_over (hover : c.Over) : c.workers.countP Worker.owes = 0 := by
  rw [List.countP_eq_zero]
  intro w hw
  simp [Worker.owes, Phase.owes, hover w hw]

/-- When all workers have ended, as many calls to quit have been made as sessions were opened,
less one for each worker that a panic killed after that.  Every other worker that opened its
session closes it once, and with that it ends.  A worker that has lost its session takes no
suite any more and makes no call but that one. -/
theorem sessions_closed_once
    (hrun : Run settings (start suites store site startedAt workers) turns c) :
    (∀ i, (turnsOf i turns).Pairwise fun t u =>
        t.milestone? = some .lost → u.before = .closing ∧ u.after.suite? = none) ∧
      (c.Over →
        c.desk.site.browser.opened = site.browser.opened + (whose .opened turns).length ∧
          (whose .killed turns).Nodup ∧ (∀ i ∈ whose .killed turns, i ∈ whose .opened turns) ∧
          c.desk.quitCalls + (whose .killed turns).length =
            site.browser.callsMade "quit" + (whose .opened turns).length ∧
          ∀ i ∈ whose .opened turns, i ∉ whose .killed turns →
            (whose .closed turns).count i = 1 ∧
              ∃ earlier, turnsOf i turns = earlier ++ [⟨i, .closing, .ended⟩]) := by
  refine ⟨fun i => ?_, fun hover => ?_⟩
  · obtain ⟨p, hcareer⟩ := exists_career_of_run hrun i
    exact hcareer.pairwise_of_lost
  · have hbalance := balance_of_run hrun
    have hquits := hbalance.quits
    rw [countP_owes_of_over hover, Nat.add_zero] at hquits
    refine ⟨hbalance.opened, nodup_whose hrun _, fun i hi => ?_, hquits, fun i hi hkilled => ?_⟩
    · -- a worker that was killed had opened its session before
      have hcareer := career_of_over hrun hover hi
      rw [mem_whose_iff] at hi ⊢
      rcases hcareer.ended_cases with hms | hms | ⟨-, hms | hms⟩ <;>
        simp_all [milestonesOf]
    · have hcareer := career_of_over hrun hover hi
      rw [count_whose]
      rw [mem_whose_iff] at hi hkilled
      rcases hcareer.ended_cases with hms | hms | ⟨hlast, hms | hms⟩ <;>
        simp_all [milestonesOf]

/-- Four suites, of which the first two open an address. -/
def errands : List Suite :=
  [⟨"a", [⟨"p", [⟨"open", ["/fire"], 1⟩]⟩]⟩, ⟨"b", [⟨"p", [⟨"open", ["/flood"], 1⟩]⟩]⟩,
    ⟨"c", [⟨"p", [⟨"log", ["x"], 1⟩]⟩]⟩, ⟨"d", []⟩]

/-- A browser that refuses the last of four sessions.  One address takes a worker with it, one
costs it its session, and sessions take their time to end. -/
def perilous : Scripted :=
  { Scripted.blank with
    rules := [⟨"open", none, 3, some 1, 0, false, none, some (.session "full")⟩,
      ⟨"navigate", some "/fire", 0, none, 0, false, some .fatal, none⟩,
      ⟨"navigate", some "/flood", 0, none, 0, false, none, some (.session "gone")⟩,
      ⟨"quit", none, 0, none, 5, false, none, none⟩] }

/-- What four workers make of it. -/
def survivors : Crew :=
  runSuites ⟨0, 0, .standard⟩ 4 errands (Store.empty.set "base" (.string ""))
    (.start perilous none 0) ⟨0, 0⟩

/-- Three sessions are opened.  One worker is killed, and the other two close theirs. -/
theorem sessions_closed_once_survivors :
    ∃ turns, Run ⟨0, 0, .standard⟩ (start errands (Store.empty.set "base" (.string ""))
        (.start perilous none 0) ⟨0, 0⟩ (workerCount 4 errands.length)) turns survivors ∧
      survivors.Over ∧ (whose .opened turns).length = 3 ∧ (whose .killed turns).length = 1 ∧
        ∀ i ∈ whose .opened turns, i ∉ whose .killed turns →
          (whose .closed turns).count i = 1 ∧
            ∃ earlier, turnsOf i turns = earlier ++ [⟨i, .closing, .ended⟩] := by
  obtain ⟨turns, hrun, hover⟩ := run_runSuites ⟨0, 0, .standard⟩ 4 errands
    (Store.empty.set "base" (.string "")) (.start perilous none 0) ⟨0, 0⟩
  obtain ⟨hopened, -, -, hquits, hclosed⟩ := (sessions_closed_once hrun).2 hover
  have hbooks : survivors.desk.site.browser.opened = 3 ∧ survivors.desk.quitCalls = 2 := by
    rw [survivors, runSuites,
      finish_eq_advance (n := 50) (Option.isNone_iff_eq_none.mp (by decide +kernel))]
    decide +kernel
  change survivors.desk.site.browser.opened = 0 + _ at hopened
  change survivors.desk.quitCalls + _ = 0 + _ at hquits
  exact ⟨turns, hrun, hover, by omega, by omega, hclosed⟩

end Crew

end BrowserSuite
