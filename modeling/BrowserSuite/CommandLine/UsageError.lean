import BrowserSuite.CommandLine.Setting

/-!
# Usage errors

Why a command line does not say what to do.  To ask for help or for the version
counts among the reasons: nothing else is done then.
-/

namespace BrowserSuite.CommandLine

/-- Why a command line does not say what to do. -/
inductive UsageError where
  /-- A setting that has to be there is not. -/
  | missing (s : Setting)
  /-- A setting ends the line, or another one follows, instead of its value. -/
  | noValue (s : Setting)
  | emptyPath (s : Setting)
  | notNumber (s : Setting) (text : String)
  /-- A setting that is not understood here, or one word too many. -/
  | unknownWord (word : String)
  | repeated (s : Setting)
  /-- A flag is given a value. -/
  | surplusValue (s : Setting)
  | unknownCommand (word : String)
  /-- There is no command among the settings. -/
  | noCommand
  /-- There is nothing at all where a command should be. -/
  | nothing
  | helpWanted
  | versionWanted
  deriving DecidableEq, Repr

namespace UsageError

/-- A usage error in words. -/
def message : UsageError → String
  | missing s => s!"--{s.name} is missing"
  | noValue s => s!"--{s.name} needs a value"
  | emptyPath s => s!"--{s.name} needs a path"
  | notNumber s text => s!"--{s.name} needs a number, not " ++ text
  | unknownWord word => s!"unexpected argument {word}"
  | repeated s => s!"--{s.name} is given twice"
  | surplusValue s => s!"--{s.name} takes no value"
  | unknownCommand word => s!"unknown command {word}"
  | noCommand | nothing => "no command is given"
  | helpWanted => "help"
  | versionWanted => "version"

end UsageError

end BrowserSuite.CommandLine
