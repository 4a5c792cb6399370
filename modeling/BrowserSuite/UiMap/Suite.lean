import BrowserSuite.UiMap.Action

/-!
# Pages and suites

A page is a named list of actions, a suite a named list of pages.  A suite is
the unit of work: one worker runs all its pages, in order.
-/

namespace BrowserSuite

/-- A named list of actions. -/
structure Page where
  name : String
  actions : List Action
  deriving DecidableEq, Repr, Inhabited

/-- A named list of pages. -/
structure Suite where
  name : String
  pages : List Page
  deriving DecidableEq, Repr, Inhabited

/-- The number of actions of all pages of a suite. -/
def Suite.actionCount (s : Suite) : Nat := (s.pages.flatMap Page.actions).length

/-- How far a page of a suite run has come. -/
inductive PageState where
  | pending
  | running
  | completed
  | failed
  deriving DecidableEq, Repr, Inhabited

namespace PageState

/-- The mark that stands before a page in a report. -/
def symbol : PageState → String
  | pending => "○"
  | running => "…"
  | completed => "✓"
  | failed => "✗"

/-- The name of a state in stored reports. -/
def name : PageState → String
  | pending => "pending"
  | running => "running"
  | completed => "completed"
  | failed => "failed"

/-- The name of a state for people. -/
def label : PageState → String
  | pending => "PENDING"
  | running => "RUNNING"
  | completed => "COMPLETED"
  | failed => "FAILED"

end PageState

end BrowserSuite
