import BrowserSuite.Json.Printer
import BrowserSuite.Report.Log
import BrowserSuite.Report.Outcome

/-!
# Run reports

What is known when a run is over: when it started, how long it took, how every
suite ended, and the log.  A report is shown to people as text and can be
stored as JSON.
-/

namespace BrowserSuite

/-- A length of time. -/
structure Duration where
  seconds : Nat
  nanos : Nat
  deriving DecidableEq, Repr, Inhabited

namespace Duration

/-- Some milliseconds. -/
def ofMillis (ms : Nat) : Duration := ⟨ms / 1000, ms % 1000 * 1000000⟩

/-- A duration in minutes and seconds. -/
def describe (d : Duration) : String :=
  let plural := fun (n : Nat) => if n = 1 then "" else "s"
  let (minutes, seconds) := (d.seconds / 60, d.seconds % 60)
  s!"{minutes} minute" ++ plural minutes ++ s!" {seconds} second" ++ plural seconds

end Duration

/-- Everything known about a finished run. -/
structure Report where
  startedAt : Moment
  elapsed : Duration
  workers : Nat
  cancelled : Bool
  suites : List SuiteResult
  log : GroupedLog
  deriving Inhabited

namespace Report

/-- The number of suites. -/
def total (r : Report) : Nat := r.suites.length

/-- The number of suites that passed. -/
def passed (r : Report) : Nat := r.suites.countP fun s => s.outcome.isPassed

/-- The number of suites that did not pass. -/
def failed (r : Report) : Nat := r.total - r.passed

/-- Whether every suite passed. -/
def isAllPassed (r : Report) : Bool := r.passed == r.total

/-- How many suites in a hundred passed: the nearest double to the quotient,
times a hundred, rounded again.  It is zero for a run without suites. -/
def passRate (r : Report) : Number.Binary64 :=
  let zero := Number.Binary64.zero false
  if r.suites.isEmpty then zero
  else
    match Number.Binary64.nearest false r.passed r.total with
    | none => zero
    | some quotient =>
      let (num, den) := quotient.magnitude
      (Number.Binary64.nearest false (num * 100) den).getD zero

/-- The pass rate with a fixed number of decimal places, rounded exactly, a tie
going to the even digit. -/
def passRateText (r : Report) (places : Nat) : String :=
  let (num, den) := r.passRate.magnitude
  let scaled := Number.roundDiv (num * Nat.pow 10 places) den
  toString (scaled / Nat.pow 10 places) ++ "." ++ Moment.padded places (scaled % Nat.pow 10 places)

/-- The last line of a report. -/
def summary (r : Report) : String := "finished in " ++ r.elapsed.describe

/-- The lines about one suite of a report. -/
def suiteLines (s : SuiteResult) : List String :=
  let marks := s.pages.map fun p => p.state.symbol ++ " " ++ p.name
  ("  " ++ s.describe) ::
    (if marks.isEmpty then [] else ["    " ++ "  ".intercalate marks])

/-- The lines about one group of the log. -/
def groupLines (group : String × List LogEntry) : List String :=
  group.1 :: (group.2.map LogEntry.describe ++ [""])

/-- A report as text. -/
def text (r : Report) : String :=
  let results :=
    if r.suites.isEmpty then [] else "Suites:" :: (r.suites.flatMap suiteLines ++ [""])
  "\n".intercalate (r.log.flatMap groupLines ++ results ++ [r.summary])

/-- The line with the counts that follows a report. -/
def counts (r : Report) : String :=
  s!"{r.passed}/{r.total} suites passed, {r.failed} failed (" ++ r.passRateText 1 ++ "%)"

open Json

/-- An outcome in a stored report. -/
def outcomeJson : Outcome → Value
  | .passed => .ofMembers [("status", .string "passed")]
  | .failed page reason => .ofMembers [
      ("status", .string "failed"),
      ("page", match page with | some p => .string p | none => .null),
      ("reason", .string reason)]

/-- A suite in a stored report. -/
def suiteJson (s : SuiteResult) : Value := .ofMembers [
  ("name", .string s.name),
  ("outcome", outcomeJson s.outcome),
  ("pages", .array (s.pages.map fun p =>
    .ofMembers [("name", .string p.name), ("state", .string p.state.name)])),
  ("duration_ms", .int s.duration)]

/-- A log entry in a stored report. -/
def entryJson (e : LogEntry) : Value := .ofMembers [
  ("timestamp", .string e.time.exactText),
  ("suite", .string e.suite),
  ("message", .string e.message)]

/-- A report in stored form. -/
def json (r : Report) : Value := .ofMembers [
  ("started_at", .string r.startedAt.exactText),
  ("elapsed", .ofMembers [("secs", .int r.elapsed.seconds), ("nanos", .int r.elapsed.nanos)]),
  ("workers", .int r.workers),
  ("cancelled", .bool r.cancelled),
  ("suites", .array (r.suites.map suiteJson)),
  ("log", .array (r.log.map fun g => .array [.string g.1, .array (g.2.map entryJson)]))]

end Report

end BrowserSuite
