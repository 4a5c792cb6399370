import BrowserSuite.Engine.Page
import BrowserSuite.Text.Blank

/-!
# Configuration

What can be set for a run besides the suites themselves, and what holds where
nothing is set.
-/

namespace BrowserSuite

/-- Where the driver is and which browser it drives. -/
structure DriverConfig where
  url : String := "http://localhost:4444"
  browser : String := "firefox"
  headless : Bool := false
  deriving DecidableEq, Repr, Inhabited

/-- The configuration of a run. -/
structure Config where
  /-- The most workers that run at the same time. -/
  threadCount : Nat := 4
  /-- The pause after every action, in milliseconds. -/
  actionDelay : Nat := 250
  /-- The pause before the last action of a page, in milliseconds. -/
  pageDelay : Nat := 1000
  /-- How long to wait for an element, in seconds. -/
  waitTimeout : Nat := 30
  /-- The pause between two attempts to find an element, in milliseconds. -/
  attemptDelay : Nat := 500
  /-- The file that the results are added to. -/
  logFile : String := "uimap-runner.log"
  /-- What separates the fields of an action. -/
  delimiter : String := "|"
  /-- The name of the directory of the UI maps. -/
  uiMapDirectory : String := "ui_maps"
  driver : DriverConfig := {}
  deriving DecidableEq, Repr, Inhabited

/-- Why a configuration cannot be used. -/
inductive ConfigFault where
  | noThreads
  | noDelimiter
  | noUiMapDirectory
  deriving DecidableEq, Repr

/-- A fault of a configuration in words. -/
def ConfigFault.message : ConfigFault → String
  | noThreads => "thread_count must be at least 1"
  | noDelimiter => "delimiter must not be empty"
  | noUiMapDirectory => "ui_map_directory must not be empty"

namespace Config

/-- The first fault of a configuration. -/
def fault? (c : Config) : Option ConfigFault :=
  if c.threadCount = 0 then some .noThreads
  else if c.delimiter.isEmpty then some .noDelimiter
  else if (Text.trim c.uiMapDirectory).isEmpty then some .noUiMapDirectory
  else none

/-- How long to go on looking for an element.  With a timeout that the clock
cannot hold, the first look-up panics. -/
def waitPolicy (c : Config) : Except Panic WaitPolicy :=
  if h : Clock.InRange (c.waitTimeout * 1000) then
    .ok ⟨c.waitTimeout * 1000, c.attemptDelay, h⟩
  else .error Clock.deadlineTooLate

/-- The pace of the pages. -/
def pageSettings (c : Config) : Except Panic PageSettings := do
  return ⟨c.actionDelay, c.pageDelay, ← c.waitPolicy⟩

end Config

end BrowserSuite
