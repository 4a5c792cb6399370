import BrowserSuite.Config.Config
import BrowserSuite.Number.Reading
import BrowserSuite.Text.Lower

/-!
# Settings from the environment

Some settings can be given by environment variables, which override what a
configuration file says.  A number that cannot be read is passed over.
-/

namespace BrowserSuite

/-- What the environment sets. -/
structure Environment where
  configFile : Option String := none
  threads : Option Nat := none
  tier : Option String := none
  driverUrl : Option String := none
  browser : Option String := none
  headless : Option Bool := none
  waitTimeout : Option Nat := none
  logFile : Option String := none
  deriving DecidableEq, Repr, Inhabited

namespace Environment

/-- What the names of the variables begin with. -/
def variablePrefix : String := "UIMAP_RUNNER_"

/-- The variables that count, with what each of them is for. -/
def descriptions : List (String × String) := [
  ("CONFIG", "Path to configuration file"),
  ("THREADS", "Maximum concurrent browser sessions"),
  ("TIER", "Development tier (qa, staging, ...)"),
  ("WEBDRIVER_URL", "WebDriver server endpoint"),
  ("BROWSER", "Browser (firefox, chrome)"),
  ("HEADLESS", "Run without a window (true/false)"),
  ("WAIT_TIMEOUT", "Element wait timeout in seconds"),
  ("LOG_FILE", "Results log file")]

/-- A word that says yes. -/
def isYes (text : String) : Bool :=
  ["1", "true", "yes", "on", "enabled"].contains (Text.lower text)

/-- What some variables set.  Of variables with one name the last one counts. -/
def ofVariables (settings : List (String × String)) : Environment :=
  let value? := fun (name : String) => settings.reverse.lookup (variablePrefix ++ name)
  let number? := fun (name : String) => (value? name).bind (Number.unsigned? (Nat.pow 2 64))
  { configFile := value? "CONFIG"
    threads := number? "THREADS"
    tier := value? "TIER"
    driverUrl := value? "WEBDRIVER_URL"
    browser := value? "BROWSER"
    headless := (value? "HEADLESS").map isYes
    waitTimeout := number? "WAIT_TIMEOUT"
    logFile := value? "LOG_FILE" }

/-- Whether the environment sets anything. -/
def hasAny (e : Environment) : Bool := e ≠ {}

/-- A configuration with the settings of the environment laid over it. -/
def apply (e : Environment) (c : Config) : Config :=
  { c with
    threadCount := e.threads.getD c.threadCount
    waitTimeout := e.waitTimeout.getD c.waitTimeout
    logFile := e.logFile.getD c.logFile
    driver :=
      { url := e.driverUrl.getD c.driver.url
        browser := e.browser.getD c.driver.browser
        headless := e.headless.getD c.driver.headless } }

end Environment

end BrowserSuite
