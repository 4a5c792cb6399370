import BrowserSuite.Text.Lower

/-!
# Log levels

How much the program tells about what it does.
-/

namespace BrowserSuite

/-- A level of detail. -/
inductive LogLevel where
  | trace
  | debug
  | info
  | warn
  | error
  deriving DecidableEq, Repr, Inhabited

namespace LogLevel

/-- How a level is written. -/
def label : LogLevel → String
  | trace => "TRACE"
  | debug => "DEBUG"
  | info => "INFO"
  | warn => "WARN"
  | error => "ERROR"

/-- The level of a name, without regard to case. -/
def ofName? (name : String) : Option LogLevel :=
  match Text.lower name with
  | "trace" => some trace
  | "debug" => some debug
  | "info" => some info
  | "warn" | "warning" => some warn
  | "error" => some error
  | _ => none

/-- The level that is asked for.  A verbose run is a debug run whatever is
named, and a name that is not known means `info`. -/
def choose (verbose : Bool) (name : String) : LogLevel :=
  if verbose then debug else (ofName? name).getD info

end LogLevel

end BrowserSuite
