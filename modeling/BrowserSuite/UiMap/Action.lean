import BrowserSuite.Text.Blank
import BrowserSuite.Text.Split
import BrowserSuite.UiMap.Command

/-!
# Actions

One line of a UI map: a command's name and its parameters, separated by the
delimiter.  The name is trimmed; the parameters are kept as they are written,
blanks and empty ones included.  Whether the name is a command at all is not
decided here.
-/

namespace BrowserSuite

/-- One line of a UI map. -/
structure Action where
  command : String
  params : List String
  line : Nat
  deriving DecidableEq, Repr, Inhabited

namespace Action

/-- The action of a line, given the delimiter and the number of the line. -/
def ofLine (text delimiter : String) (line : Nat) : Action :=
  match Text.split delimiter text with
  | [] => ⟨"", [], line⟩
  | command :: params => ⟨Text.trim command, params, line⟩

/-- The command that an action names, if it is one. -/
def command? (a : Action) : Option Command := Command.ofName? a.command

/-- An action as the log of a debug run shows it. -/
def describe (a : Action) : String :=
  let fields := Text.join ", " (a.command :: a.params)
  s!"[{fields}] (line {a.line})"

end Action

end BrowserSuite
