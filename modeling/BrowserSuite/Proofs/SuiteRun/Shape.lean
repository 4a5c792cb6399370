import BrowserSuite.Engine.SuiteRun
import BrowserSuite.Proofs.Browser.Panics

/-!
# The shape of a suite run

Run in a world, a suite is a walk along its pages: each page is run in the world that the
pages before it have left, up to the first one that does not end with a value.  With
`World.Completes` for the pages before it and `World.afterPages` for the world they leave,
`run_suite_shape` tells all there is to a suite run: the record of every page by its
position, the outcome, whether the worker must stop, and the world at the end.  That world
is the one in which the last page ended, with the verdict added to the log, so the pages
that were not run have done nothing.
-/

namespace BrowserSuite

/-! ## Pages in a world -/

namespace World

variable {settings : PageSettings} {w : World}

/-- Runs a page of a suite; in a debug run, its name is logged first. -/
def runPage (settings : PageSettings) (w : World) (page : Page) : Ending RunError Unit × World :=
  (w.run (SuiteRun.announce page)).2.run (page.run settings)

/-- The world that some pages leave, run one after the other. -/
def afterPages (settings : PageSettings) (w : World) (pages : List Page) : World :=
  pages.foldl (fun w page => (w.runPage settings page).2) w

/-- All pages end with a value if they are run one after the other. -/
def Completes (settings : PageSettings) : World → List Page → Prop
  | _, [] => True
  | w, page :: rest =>
    (w.runPage settings page).1 = .value () ∧ Completes settings (w.runPage settings page).2 rest

/-- A world with more messages in its log. -/
def logged (w : World) (messages : List String) : World := { w with log := w.log ++ messages }

/-- Either all pages are completed, or there is a first one that is not. -/
theorem completes_or_stops (settings : PageSettings) (w : World) (pages : List Page) :
    w.Completes settings pages ∨
      ∃ before page rest, pages = before ++ page :: rest ∧ w.Completes settings before ∧
        ((w.afterPages settings before).runPage settings page).1 ≠ .value () := by
  induction pages generalizing w with
  | nil => exact .inl trivial
  | cons page rest ih =>
      by_cases hpage : (w.runPage settings page).1 = .value ()
      · rcases ih (w.runPage settings page).2 with hall | ⟨before, stop, rest, rfl, hbefore, hstop⟩
        · exact .inl ⟨hpage, hall⟩
        · exact .inr ⟨page :: before, stop, rest, rfl, ⟨hpage, hbefore⟩, hstop⟩
      · exact .inr ⟨[], page, rest, rfl, trivial, hpage⟩

end World

/-! ## Panics of a page -/

namespace PageRun

theorem panicsByCall_runActions {E : Type} (settings : PageSettings) (chain : Option (Chain E))
    (actions : List Action) :
    Task.PanicsByCall (· = Clock.pauseTooLong) (runActions settings chain actions) := by
  induction actions generalizing chain with
  | nil => exact .pure ()
  | cons action rest ih =>
      have haction : Task.PanicsByCall (· = Clock.pauseTooLong)
          (runAction settings.wait chain action) := by
        rw [runAction_eq]
        refine .bind (.ask (r := .isCancelled)) fun cancelled => ?_
        cases cancelled with
        | true => exact .fail _
        | false =>
            have hcarry := part_carryOut settings.wait chain action
            exact (hcarry.mono fun p ⟨_, _, hp, _⟩ => hp).panicsByCall
      have hsettle := (part_settle (E := E) settings rest.length).mono
        fun p h => (h.elim : p = Clock.pauseTooLong)
      exact haction.bind fun chain => hsettle.panicsByCall.bind fun _ => ih chain

end PageRun

namespace World

variable {settings : PageSettings} {w : World} {pages : List Page}

/-- All panics in the script of the browser are stopped at the end of a page. -/
abbrev Caught (w : World) : Prop := w.site.browser.PanicsOnlyWith (· ≠ .fatal)

theorem Caught.runPage (hw : w.Caught) (page : Page) : (w.runPage settings page).2.Caught :=
  (panics_of_trace (panics_of_trace hw _).1 _).1

theorem Caught.afterPages (hw : w.Caught) : (w.afterPages settings pages).Caught := by
  induction pages generalizing w with
  | nil => exact hw
  | cons page rest ih => exact ih (hw.runPage page)

/-- No page takes the worker with it. -/
theorem Caught.runPage_ne_fatal (hw : w.Caught) (page : Page) :
    (w.runPage settings page).1 ≠ .panicked .fatal := by
  intro h
  have hstart : (w.run (SuiteRun.announce page)).2.Caught := (panics_of_trace hw _).1
  have hends := (w.run (SuiteRun.announce page)).2.ends_trace (page.run settings)
  rw [show ((w.run (SuiteRun.announce page)).2.run (page.run settings)).1 = _ from h] at hends
  rcases PageRun.panicsByCall_runActions settings none page.actions _ _ hends with
    howned | ⟨s, hs, hp⟩
  · cases howned
  · exact (panics_of_trace hstart (page.run settings)).2 s hs _ hp rfl

end World

/-! ## The walk along the pages -/

namespace SuiteRun

variable {settings : PageSettings} {suite : Suite} {start : Nat} {records : List PageRecord}
  {w : World} {page : Page} {reason : String} {fatal : Option RunError}

theorem failure?_eq_none_iff {x : Ending RunError Unit} : failure? x = none ↔ x = .value () := by
  cases x <;> simp [failure?]

/-- Only an error can stop the worker, and only a lost session or a cancelled run. -/
theorem fatal_eq_some_iff {x : Ending RunError Unit} (h : failure? x = some (reason, fatal))
    (e : RunError) :
    fatal = some e ↔ x = .failed e ∧ ((∃ d, e = .session d) ∨ e = .cancelled) := by
  cases x with
  | value u => cases h
  | panicked p =>
      cases h
      simp
  | failed e' =>
      cases h
      cases e' <;> simp [RunError.endsWorker] <;> grind

theorem run_announce (w : World) (page : Page) :
    (w.run (announce page : Task Handle Empty Unit)).1 = .value () := by
  change (w.run (if w.store.flag "debug" then Task.log page.name else pure ())).1 = .value ()
  split <;> rfl

/-- The first page is run in the world as it is, and its ending decides what comes next. -/
theorem run_runPages_cons {rest : List Page}
    (hcaught : (w.runPage settings page).1 ≠ .panicked .fatal) :
    w.run (runPages settings suite start records (page :: rest)) =
      (w.runPage settings page).2.run
        (match failure? (w.runPage settings page).1 with
        | none => runPages settings suite start (records ++ [⟨page.name, .completed⟩]) rest
        | some (reason, fatal) => failAt suite start records page rest reason fatal) := by
  have hannounce : w.run (announce page : Task Handle Empty Unit) =
      (.value (), (w.run (announce page : Task Handle Empty Unit)).2) :=
    Prod.ext (run_announce w page) rfl
  have hending : (w.run (announce page : Task Handle Empty Unit)).2.run
      (page.run settings).ending =
        (.value (w.runPage settings page).1, (w.runPage settings page).2) :=
    (World.run_ending _ _).trans (Prod.ext (Ending.caught_eq_value hcaught) rfl)
  refine (World.run_bind_of_value hannounce _).trans ?_
  exact World.run_bind_of_value hending _

/-- A suite that passes writes one line and does nothing else. -/
theorem run_pass :
    w.run (pass suite start records) =
      (.value ⟨⟨suite.name, .passed, records, w.site.clock - start⟩, none⟩,
        w.logged ["Suite Passed"]) :=
  rfl

/-- A suite that fails writes three lines and does nothing else. -/
theorem run_failAt {rest : List Page} :
    w.run (failAt suite start records page rest reason fatal) =
      (.value ⟨⟨suite.name, .failed (some page.name) reason,
          records ++ ⟨page.name, .failed⟩ :: pendingRecords rest, w.site.clock - start⟩, fatal⟩,
        w.logged [s!"X Page Failed: {page.name}", s!"X {reason}",
          s!"X Suite Failed: {suite.name}"]) := by
  have hlog : ∀ a b c : String, w.log ++ [a, b, c] = w.log ++ [a] ++ [b] ++ [c] := by simp
  rw [World.logged, hlog]
  rfl

/-- Pages that are completed are recorded as such, and the walk goes on where they have led. -/
theorem run_runPages_append {before : List Page} (hw : w.Completes settings before)
    (suite : Suite) (start : Nat) (records : List PageRecord) (rest : List Page) :
    w.run (runPages settings suite start records (before ++ rest)) =
      (w.afterPages settings before).run (runPages settings suite start
        (records ++ before.map fun page => ⟨page.name, .completed⟩) rest) := by
  induction before generalizing w records with
  | nil => simp [World.afterPages]
  | cons page before ih =>
      obtain ⟨hpage, hbefore⟩ := hw
      have hcaught : (w.runPage settings page).1 ≠ .panicked .fatal := by simp [hpage]
      rw [List.cons_append, run_runPages_cons hcaught, hpage]
      refine (ih hbefore _).trans ?_
      rw [List.append_assoc]
      rfl

/-! ## The shape -/

/-- How far the page at one position came if the page at another one failed. -/
def stateAt (failed i : Nat) : PageState :=
  if i < failed then .completed else if i = failed then .failed else .pending

theorem map_state_records (before rest : List Page) (page : Page) :
    (before.map (fun p => (⟨p.name, .completed⟩ : PageRecord)) ++
        ⟨page.name, .failed⟩ :: pendingRecords rest).map PageRecord.state =
      (List.range (before ++ page :: rest).length).map (stateAt before.length) := by
  refine List.ext_getElem (by simp [pendingRecords]) fun i hi _ => ?_
  simp only [List.length_map, List.length_append, List.length_cons, pendingRecords] at hi
  simp only [List.map_append, List.map_map, List.map_cons, pendingRecords, List.getElem_map,
    List.getElem_range, List.getElem_append, List.length_map, List.getElem_cons, stateAt]
  split
  · rfl
  · have hle : before.length ≤ i := Nat.le_of_not_lt ‹_›
    split <;> grind

/-- All pages of a suite were completed, and then the suite was logged to have passed. -/
structure AllCompleted (settings : PageSettings) (suite : Suite) (w : World) (run : SuiteRun)
    (after : World) : Prop where
  pages : w.Completes settings suite.pages
  states : ∀ record ∈ run.result.pages, record.state = .completed
  outcome : run.result.outcome = .passed
  fatal : run.fatal = none
  after : after = (w.afterPages settings suite.pages).logged ["Suite Passed"]

/-- The pages before position `k` were completed, and the page at it, which ended in some
way, failed.  The world is left as that page has left it, but for the verdict. -/
structure StoppedAt (settings : PageSettings) (suite : Suite) (w : World) (run : SuiteRun)
    (after : World) (k : Nat) (page : Page) (ended : Ending RunError Unit) (left : World) :
    Prop where
  position : suite.pages[k]? = some page
  pages : w.Completes settings (suite.pages.take k)
  ran : (w.afterPages settings (suite.pages.take k)).runPage settings page = (ended, left)
  stopped : ended ≠ .value ()
  states : run.result.pages.map PageRecord.state =
    (List.range suite.pages.length).map (stateAt k)
  outcome : ∃ reason, run.result.outcome = .failed (some page.name) reason ∧
    after = left.logged
      [s!"X Page Failed: {page.name}", s!"X {reason}", s!"X Suite Failed: {suite.name}"]
  fatal : ∀ e, run.fatal = some e ↔
    ended = .failed e ∧ ((∃ d, e = .session d) ∨ e = .cancelled)

end SuiteRun

/-- Whatever its pages do, as long as every panic is stopped at the end of its page, a suite
run comes to an end with a record for each page, at the page's position.  Either all pages
are completed, or the first one that is not has failed, and it decides alone whether the
worker must stop.  After that page, nothing is done but to log the verdict. -/
theorem run_suite_shape (settings : PageSettings) (suite : Suite) (w : World)
    (hcaught : ∀ r ∈ w.site.browser.rules, r.panic ≠ some .fatal) :
    ∃ run after, w.run (suite.run settings) = (.value run, after) ∧
      run.result.name = suite.name ∧
      run.result.pages.map PageRecord.name = suite.pages.map Page.name ∧
      (∀ record ∈ run.result.pages, record.state ≠ .running) ∧
      (SuiteRun.AllCompleted settings suite w run after ∨
        ∃ k page ended left, SuiteRun.StoppedAt settings suite w run after k page ended left) := by
  have hw : w.Caught := by
    refine ⟨fun r hr p hp hfatal => hcaught r hr (hfatal ▸ hp), fun _ => ?_⟩
    simp [Scripted.vanished]
  have hrun : w.run (suite.run settings) =
      w.run (SuiteRun.runPages settings suite w.site.clock [] suite.pages) := rfl
  rcases w.completes_or_stops settings suite.pages with
    hall | ⟨before, page, rest, hpages, hbefore, hstop⟩
  · have hpass := SuiteRun.run_runPages_append hall suite w.site.clock [] []
    rw [List.append_nil] at hpass
    have hstates : ∀ record ∈ suite.pages.map (fun p => (⟨p.name, .completed⟩ : PageRecord)),
        record.state = .completed := by simp
    refine ⟨_, _, hrun.trans (hpass.trans SuiteRun.run_pass), rfl, by simp, ?_, .inl ?_⟩
    · intro record hrecord
      simp [hstates record hrecord]
    · exact ⟨hall, hstates, rfl, rfl, rfl⟩
  · have hleft : (w.afterPages settings before).Caught := hw.afterPages
    have hsplit := SuiteRun.run_runPages_append hbefore suite w.site.clock [] (page :: rest)
    rw [SuiteRun.run_runPages_cons (hleft.runPage_ne_fatal page), ← hpages] at hsplit
    rcases hran : (w.afterPages settings before).runPage settings page with ⟨ended, left⟩
    rw [hran] at hstop hsplit
    obtain ⟨⟨reason, fatal⟩, hfailure⟩ := Option.ne_none_iff_exists'.mp
      (mt SuiteRun.failure?_eq_none_iff.mp hstop)
    rw [hfailure] at hsplit
    have htake : suite.pages.take before.length = before := by simp [hpages]
    refine ⟨_, _, hrun.trans (hsplit.trans SuiteRun.run_failAt), rfl, ?_, ?_,
      .inr ⟨before.length, page, ended, left, ?_⟩⟩
    · simp [hpages, pendingRecords, Function.comp_def]
    · intro record hrecord
      simp only [List.nil_append, List.mem_append, List.mem_map, List.mem_cons, pendingRecords]
        at hrecord
      rcases hrecord with ⟨_, _, rfl⟩ | rfl | ⟨_, _, rfl⟩ <;> simp
    · exact {
        position := by simp [hpages]
        pages := by rwa [htake]
        ran := by rw [htake, hran]
        stopped := hstop
        states := by
          rw [hpages]
          exact SuiteRun.map_state_records before rest page
        outcome := ⟨reason, rfl, rfl⟩
        fatal := SuiteRun.fatal_eq_some_iff hfailure }

/-- Three pages, two of one name, of which only the second does something. -/
def stumbling : Suite :=
  ⟨"s", [⟨"p", []⟩, ⟨"p", [⟨"click", ["id", "ok"], 1⟩]⟩, ⟨"q", []⟩]⟩

/-- A world with a button that makes the driver panic. -/
def panicking : World :=
  let browser := Scripted.blank.addElement ⟨"id=ok", 0, "", [], [], 0, false, 0⟩
  let rule := ⟨"click", none, 0, none, 0, false, some (.text "boom"), none⟩
  ⟨.start { browser with rules := [rule] } none 0, .empty, []⟩

/-- The second page panics, the worker may go on, and the third page is not run. -/
theorem run_suite_shape_stumbling :
    let settings : PageSettings := ⟨0, 0, ⟨500, 100, by decide⟩⟩
    ∃ run after, panicking.run (stumbling.run settings) = (.value run, after) ∧
      run.result.pages = [⟨"p", .completed⟩, ⟨"p", .failed⟩, ⟨"q", .pending⟩] ∧
      ∃ k page ended left,
        SuiteRun.StoppedAt settings stumbling panicking run after k page ended left := by
  intro settings
  obtain ⟨run, after, hrun, -, -, -, hshape⟩ :=
    run_suite_shape settings stumbling panicking (by decide)
  have hvalue : (panicking.run (stumbling.run settings)).1 =
      .value ⟨⟨"s", .failed (some "p") "panicked: boom",
        [⟨"p", .completed⟩, ⟨"p", .failed⟩, ⟨"q", .pending⟩], 0⟩, none⟩ := by decide +kernel
  rw [hrun] at hvalue
  cases hvalue
  refine ⟨_, _, hrun, rfl, ?_⟩
  rcases hshape with hall | hstopped
  · cases hall.outcome
  · exact hstopped

end BrowserSuite
