import BrowserSuite.UiMap.Suite

/-!
# Suite results

How a suite ended and how far each of its pages came.
-/

namespace BrowserSuite

/-- How a suite ended.  A failed suite names the page that failed, if one was
run, and the reason. -/
inductive Outcome where
  | passed
  | failed (page : Option String) (reason : String)
  deriving DecidableEq, Repr, Inhabited

/-- Whether a suite passed. -/
def Outcome.isPassed : Outcome → Bool
  | passed => true
  | failed _ _ => false

/-- The final state of a page. -/
structure PageRecord where
  name : String
  state : PageState
  deriving DecidableEq, Repr, Inhabited

/-- The result of a suite, with its duration in milliseconds. -/
structure SuiteResult where
  name : String
  outcome : Outcome
  pages : List PageRecord
  duration : Nat
  deriving DecidableEq, Repr, Inhabited

/-- The records of pages that have not been started. -/
def pendingRecords (pages : List Page) : List PageRecord :=
  pages.map fun p => ⟨p.name, .pending⟩

/-- The result of a suite that no worker finished. -/
def SuiteResult.notRun (suite : Suite) (reason : String) : SuiteResult :=
  ⟨suite.name, .failed none reason, pendingRecords suite.pages, 0⟩

/-- One line about a suite. -/
def SuiteResult.describe (r : SuiteResult) : String :=
  match r.outcome with
  | .passed => s!"✓ {r.name} [{r.duration}ms]"
  | .failed none reason => s!"✗ {r.name} [{r.duration}ms] - {reason}"
  | .failed (some page) reason => s!"✗ {r.name} [{r.duration}ms] at {page} - {reason}"

end BrowserSuite
