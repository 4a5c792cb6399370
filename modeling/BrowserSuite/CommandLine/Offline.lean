import BrowserSuite.CommandLine.Surroundings
import BrowserSuite.Engine.Pool

/-!
# Runs without a browser

Where no browser can be reached every worker is refused its session, so that a
run ends at once and reports every suite as not run.
-/

namespace BrowserSuite.CommandLine

/-- The report on a run that finds no browser. -/
def offlineReport (config : Config) (suites : List Suite) (store : Store) (startedAt : Moment) :
    Report :=
  let site := Site.start { Scripted.blank with refuses := true } none 0
  -- no page is run, so that a timeout that no look-up could set a deadline with does no harm
  let settings := config.pageSettings.toOption.getD default
  (runSuites settings config.threadCount suites store site startedAt).report suites

end BrowserSuite.CommandLine
