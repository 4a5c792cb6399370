import BrowserSuite.Report.Moment

/-!
# The run log

Workers write messages under the names of their suites as they come; the report
shows them suite by suite.  Grouping keeps the order of the messages of a suite
and lists the suites in the order of their first messages.
-/

namespace BrowserSuite

/-- A message of a suite. -/
structure LogEntry where
  time : Moment
  suite : String
  message : String
  deriving DecidableEq, Repr, Inhabited

/-- An entry as a line of text. -/
def LogEntry.describe (e : LogEntry) : String := e.time.logText ++ ": " ++ e.message

/-- The messages of a run, suite by suite. -/
abbrev GroupedLog := List (String × List LogEntry)

/-- Adds an entry to the group of its suite, or opens a group at the end. -/
def addToGroup (e : LogEntry) : GroupedLog → GroupedLog
  | [] => [(e.suite, [e])]
  | (name, entries) :: rest =>
    if name = e.suite then (name, entries ++ [e]) :: rest
    else (name, entries) :: addToGroup e rest

/-- The entries of a log, grouped by suite. -/
def grouped (entries : List LogEntry) : GroupedLog :=
  entries.foldl (fun groups e => addToGroup e groups) []

end BrowserSuite
