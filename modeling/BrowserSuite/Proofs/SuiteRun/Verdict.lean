import BrowserSuite.Engine.SuiteRun
import BrowserSuite.Proofs.Program.Path

/-!
# The verdict on a suite

Whatever its session and the clock answer, a suite run that comes to an end has
one record for each page of the suite, in the order of the pages, and the last
lines it wrote to the log say the same as its result: `Suite Passed`, or the
failing page, the reason and the suite.

`concerns_of_ends` and `verdict_of_ends` are statements about every path of
`Suite.run`, so they hold of a worker's suite under every interleaving.
-/

namespace BrowserSuite

/-- What a suite is called and what its pages are called. -/
def Suite.outline (s : Suite) : String × List String := (s.name, s.pages.map Page.name)

namespace SuiteResult

/-- What a result says a suite and its pages are called. -/
def outline (r : SuiteResult) : String × List String := (r.name, r.pages.map PageRecord.name)

/-- The last lines in the log of a suite with some result. -/
def verdict (r : SuiteResult) : List String :=
  match r.outcome with
  | .passed => ["Suite Passed"]
  | .failed (some page) reason =>
    [s!"X Page Failed: {page}", s!"X {reason}", s!"X Suite Failed: {r.name}"]
  | .failed none reason => [s!"X {reason}", s!"X Suite Failed: {r.name}"]

/-- A result is about a suite: it has the suite's name and one record for each
page, and if the suite passed, all pages were completed. -/
structure Concerns (r : SuiteResult) (suite : Suite) : Prop where
  name : r.name = suite.name
  pages : r.pages.map PageRecord.name = suite.pages.map Page.name
  completed : r.outcome = .passed → ∀ record ∈ r.pages, record.state = .completed

theorem Concerns.outline_eq {r : SuiteResult} {suite : Suite} (h : r.Concerns suite) :
    r.outline = suite.outline := by
  rw [outline, Suite.outline, h.name, h.pages]

theorem map_name_pendingRecords (pages : List Page) :
    (pendingRecords pages).map PageRecord.name = pages.map Page.name := by
  simp [pendingRecords]

theorem concerns_notRun (suite : Suite) (reason : String) :
    (notRun suite reason).Concerns suite where
  name := rfl
  pages := map_name_pendingRecords suite.pages
  completed := by simp [notRun]

end SuiteResult

namespace SuiteRun

variable {E : Type} {settings : PageSettings} {suite : Suite} {start : Nat}
  {records : List PageRecord} {steps : List (Task.Step E)} {run : SuiteRun}

/-- A suite that passes says so last. -/
theorem pass_of_ends (h : (pass suite start records).Ends steps (.value run)) :
    run.result.name = suite.name ∧ run.result.pages = records ∧
      run.result.verdict <:+ Task.messages steps := by
  obtain ⟨logged, _, _, rfl, hlog, h⟩ := Task.ends_bind_value_iff.mp h
  obtain ⟨looked, _, now, rfl, hnow, h⟩ := Task.ends_bind_value_iff.mp h
  obtain ⟨rfl, rfl⟩ := Task.ends_pure_value_iff.mp h
  rw [Task.steps_of_ends_log hlog, Task.steps_of_ends_now hnow]
  exact ⟨rfl, rfl, by simp [SuiteResult.verdict, Task.Step.message?]⟩

/-- A suite that fails says last where and why. -/
theorem failAt_of_ends {page : Page} {rest : List Page} {reason : String} {fatal : Option RunError}
    (h : (failAt suite start records page rest reason fatal).Ends steps (.value run)) :
    run.result.name = suite.name ∧ run.result.outcome = .failed (some page.name) reason ∧
      run.result.pages = records ++ ⟨page.name, .failed⟩ :: pendingRecords rest ∧
      run.result.verdict <:+ Task.messages steps := by
  obtain ⟨_, _, _, rfl, hpage, h⟩ := Task.ends_bind_value_iff.mp h
  obtain ⟨_, _, _, rfl, hreason, h⟩ := Task.ends_bind_value_iff.mp h
  obtain ⟨_, _, _, rfl, hsuite, h⟩ := Task.ends_bind_value_iff.mp h
  obtain ⟨_, _, now, rfl, hnow, h⟩ := Task.ends_bind_value_iff.mp h
  obtain ⟨rfl, rfl⟩ := Task.ends_pure_value_iff.mp h
  rw [Task.steps_of_ends_log hpage, Task.steps_of_ends_log hreason,
    Task.steps_of_ends_log hsuite, Task.steps_of_ends_now hnow]
  exact ⟨rfl, rfl, rfl, by simp [SuiteResult.verdict, Task.Step.message?]⟩

/-- What the remaining pages of a suite add to the records of the pages before
them, and that the verdict is logged last. -/
theorem runPages_of_ends {pages : List Page}
    (h : (runPages settings suite start records pages).Ends steps (.value run)) :
    run.result.name = suite.name ∧
      run.result.pages.map PageRecord.name =
        records.map PageRecord.name ++ pages.map Page.name ∧
      (run.result.outcome = .passed → (∀ record ∈ records, record.state = .completed) →
        ∀ record ∈ run.result.pages, record.state = .completed) ∧
      run.result.verdict <:+ Task.messages steps := by
  -- the pages that are left become fewer, and the records grow, until one page fails
  induction pages generalizing records steps with
  | nil =>
      obtain ⟨hname, hpages, hverdict⟩ := pass_of_ends h
      rw [hpages]
      exact ⟨hname, by simp, fun _ hrecords => hrecords, hverdict⟩
  | cons page rest ih =>
      obtain ⟨_, _, _, rfl, _, h⟩ := Task.ends_bind_value_iff.mp h
      obtain ⟨_, last, e, rfl, _, h⟩ := Task.ends_bind_value_iff.mp h
      have hlast : ∀ {before between : List (Task.Step E)} {lines : List String},
          lines <:+ Task.messages last → lines <:+ Task.messages (before ++ (between ++ last)) := by
        intro before between lines hlines
        rw [← List.append_assoc, Task.messages_append]
        exact hlines.trans (List.suffix_append ..)
      split at h
      · -- the page was completed
        obtain ⟨hname, hpages, hcompleted, hverdict⟩ := ih h
        refine ⟨hname, by simpa using hpages, fun hpassed hrecords => hcompleted hpassed ?_,
          hlast hverdict⟩
        intro record hrecord
        rcases List.mem_append.mp hrecord with hrecord | hrecord
        · exact hrecords record hrecord
        · rw [List.mem_singleton.mp hrecord]
      · -- the page failed
        obtain ⟨hname, houtcome, hpages, hverdict⟩ := failAt_of_ends h
        refine ⟨hname, ?_, by simp [houtcome], hlast hverdict⟩
        simp [hpages, SuiteResult.map_name_pendingRecords]

end SuiteRun

namespace Suite

variable {E : Type} {settings : PageSettings} {suite : Suite} {steps : List (Task.Step E)}
  {run : SuiteRun}

/-- The result of a suite run is about its suite. -/
theorem concerns_of_ends (h : (suite.run settings).Ends steps (.value run)) :
    run.result.Concerns suite := by
  obtain ⟨_, _, _, rfl, _, h⟩ := Task.ends_bind_value_iff.mp h
  obtain ⟨hname, hpages, hcompleted, _⟩ := SuiteRun.runPages_of_ends h
  exact ⟨hname, by simpa using hpages, fun hpassed => hcompleted hpassed (by simp)⟩

/-- A suite run logs its verdict last. -/
theorem verdict_of_ends (h : (suite.run settings).Ends steps (.value run)) :
    run.result.verdict <:+ Task.messages steps := by
  obtain ⟨_, _, _, rfl, _, h⟩ := Task.ends_bind_value_iff.mp h
  obtain ⟨_, _, _, hverdict⟩ := SuiteRun.runPages_of_ends h
  rw [Task.messages_append]
  exact hverdict.trans (List.suffix_append ..)

end Suite

end BrowserSuite
