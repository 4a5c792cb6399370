import BrowserSuite.Browser.Error

/-!
# Why a page stops

Everything that can end a page before its last action.  Most causes end the
suite only; a lost session and a cancelled run also end the worker.
-/

namespace BrowserSuite

/-- A parameter that its command cannot use. -/
inductive BadParameter where
  | delay (text : String)
  | locatorKind (text : String)
  | key (name : String)
  | dimension (text : String)
  deriving DecidableEq, Repr

/-- What is wrong with a parameter. -/
def BadParameter.message : BadParameter → String
  | delay t => s!"invalid delay: {t}"
  | locatorKind t => s!"unknown By method: {t}"
  | key n => s!"unknown key mapping: {n}"
  | dimension t => s!"invalid window dimension: {t}"

/-- Why a page stopped. -/
inductive RunError where
  | arity (command : String) (required given line : Nat)
  | unknownCommand (command : String) (line : Nat)
  | invalidParameter (cause : BadParameter)
  | timeout (awaited : String)
  | verification (expected : String)
  | unknownVariable (key : String)
  | chainNotStarted
  | browser (cause : BrowserError)
  | session (detail : String)
  | cancelled
  deriving DecidableEq, Repr

namespace RunError

/-- A browser error as the reason why a page stopped. -/
def ofBrowser : BrowserError → RunError
  | .session d => session d
  | e => browser e

/-- Whether the worker cannot go on with its session. -/
def endsWorker : RunError → Bool
  | session _ | cancelled => true
  | _ => false

/-- The reason in words. -/
def message : RunError → String
  | arity c required given line =>
    s!"invalid action on line {line}: {c} needs {required} parameters, got {given}"
  | unknownCommand c line => s!"unknown action on line {line}: {c}"
  | invalidParameter cause => s!"invalid parameter: {cause.message}"
  | timeout awaited => s!"timed out: {awaited}"
  | verification expected => s!"cannot verify text: {expected}"
  | unknownVariable key => s!"Unknown store variable: {key}"
  | chainNotStarted => "no action chain started (use action_new)"
  | browser cause => cause.message
  | session d => s!"browser session lost: {d}"
  | cancelled => "run cancelled"

end RunError

end BrowserSuite
