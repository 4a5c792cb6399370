import BrowserSuite.Engine.Error
import BrowserSuite.Files.FileError
import BrowserSuite.Files.Path

/-!
# Load errors

Why suites could not be loaded.
-/

namespace BrowserSuite

/-- Why suites, or the base URL for them, could not be loaded. -/
inductive LoadError where
  /-- There is nothing at the path of the suites. -/
  | noSuites (path : Path)
  | unreadable (path : Path) (cause : FileError)
  /-- No directory of UI maps is next to the suites or above them. -/
  | noUiMaps (name : String) (start : Path)
  /-- No file with a base URL is next to the suites or above them. -/
  | noBaseUrl (start : Path)
  /-- A line of a UI map is no instruction. -/
  | badAction (path : Path) (cause : RunError)
  deriving DecidableEq, Repr

namespace LoadError

/-- The description of a load error. -/
def message : LoadError → String
  | noSuites path => s!"Suite path does not exist: {path.text}"
  | unreadable path cause => s!"Failed to read {path.text}: {cause.message}"
  | noUiMaps name start =>
    s!"Cannot locate UI map directory '" ++ name ++ "' above " ++ start.text
  | noBaseUrl start => s!"Cannot find base URL file (base.url) above {start.text}"
  | badAction path cause => s!"{path.text}: {cause.message}"

/-- What led to a load error, described, if anything did. -/
def causes : LoadError → List String
  | unreadable _ cause => [cause.message]
  | badAction _ cause => [cause.message]
  | _ => []

end LoadError

end BrowserSuite
