import BrowserSuite.Engine.Page
import BrowserSuite.Report.Outcome

/-!
# Running a suite

The pages of a suite are run in order, up to the first one that fails.  How the
page ended decides the verdict: an error or a panic fails the suite, and an
error that ends the worker is handed on.  The verdict is written to the suite's
log.  A panic in a page is stopped here, so that the worker can go on with its
next suite.
-/

namespace BrowserSuite

/-- The result of a suite and, if the worker cannot go on, the reason. -/
structure SuiteRun where
  result : SuiteResult
  fatal : Option RunError
  deriving DecidableEq, Repr

namespace SuiteRun

variable {E : Type}

/-- Why a page failed and whether the worker must stop, if the page failed. -/
def failure? : Ending RunError Unit → Option (String × Option RunError)
  | .value _ => none
  | .failed e => some (e.message, if e.endsWorker then some e else none)
  | .panicked p => some (s!"panicked: {p.message}", none)

/-- In a debug run the log shows the name of a page before the page is run. -/
def announce (page : Page) : Task E Empty Unit := do
  let store ← Task.readStore
  if store.flag "debug" then Task.log page.name

/-- Ends a suite of which all pages were completed. -/
def pass (suite : Suite) (start : Nat) (done : List PageRecord) : Task E Empty SuiteRun := do
  Task.log "Suite Passed"
  let now ← Task.now
  pure ⟨⟨suite.name, .passed, done, now - start⟩, none⟩

/-- Ends a suite at a page that failed.  The pages in `rest` are not run. -/
def failAt (suite : Suite) (start : Nat) (done : List PageRecord) (page : Page) (rest : List Page)
    (reason : String) (fatal : Option RunError) : Task E Empty SuiteRun := do
  Task.log s!"X Page Failed: {page.name}"
  Task.log s!"X {reason}"
  Task.log s!"X Suite Failed: {suite.name}"
  let now ← Task.now
  let records := done ++ ⟨page.name, .failed⟩ :: pendingRecords rest
  pure ⟨⟨suite.name, .failed (some page.name) reason, records, now - start⟩, fatal⟩

/-- Runs the remaining pages of a suite.  `done` holds the records of the pages
before them. -/
def runPages (settings : PageSettings) (suite : Suite) (start : Nat) (done : List PageRecord) :
    List Page → Task E Empty SuiteRun
  | [] => pass suite start done
  | page :: rest => do
    announce page
    match failure? (← (page.run settings).ending) with
    | none => runPages settings suite start (done ++ [⟨page.name, .completed⟩]) rest
    | some (reason, fatal) => failAt suite start done page rest reason fatal

end SuiteRun

/-- Runs a suite. -/
def Suite.run {E : Type} (settings : PageSettings) (suite : Suite) : Task E Empty SuiteRun := do
  let start ← Task.now
  SuiteRun.runPages settings suite start [] suite.pages

end BrowserSuite
