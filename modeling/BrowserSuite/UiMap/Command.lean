/-!
# The command table

Every command that a UI map may use, with the name under which it is written
and the number of parameters it needs.  A command takes its parameters from the
front; a UI map may write more of them than are needed.
-/

namespace BrowserSuite

/-- A command of a UI map. -/
inductive Command where
  | gestureNew
  | gestureMove
  | gestureClick
  | gestureKeys
  | gesturePerform
  | clear
  | clearType
  | click
  | clickAll
  | keys
  | selectByText
  | selectByValue
  | typeText
  | typeVariable
  | baseUrl
  | openPage
  | findFrame
  | switchToDefault
  | switchToFrame
  | setWindowSize
  | setVariable
  | randomSsn
  | storeAttribute
  | storeText
  | log
  | logVariable
  | delay
  | verifyText
  deriving DecidableEq, Repr

namespace Command

/-- The name under which a command is written. -/
def name : Command → String
  | gestureNew => "action_new"
  | gestureMove => "action_move_to_element"
  | gestureClick => "action_click"
  | gestureKeys => "action_keys"
  | gesturePerform => "action_perform"
  | clear => "clear"
  | clearType => "clear_type"
  | click => "click"
  | clickAll => "click_all"
  | keys => "keys"
  | selectByText => "select"
  | selectByValue => "select_by_value"
  | typeText => "type"
  | typeVariable => "type_var"
  | baseUrl => "base_url"
  | openPage => "open"
  | findFrame => "find_frame"
  | switchToDefault => "switch_to_default"
  | switchToFrame => "switch_to_frame"
  | setWindowSize => "set_window_size"
  | setVariable => "set"
  | randomSsn => "random_ssn"
  | storeAttribute => "store_attribute"
  | storeText => "store_text"
  | log => "log"
  | logVariable => "log_var"
  | delay => "delay"
  | verifyText => "verify_text"

/-- The number of parameters that a command needs. -/
def arity : Command → Nat
  | gestureNew | gestureClick | gesturePerform | switchToDefault => 0
  | gestureKeys | baseUrl | delay | log | logVariable | openPage | randomSsn | switchToFrame => 1
  | gestureMove | clear | click | clickAll | findFrame | setVariable | setWindowSize => 2
  | clearType | keys | selectByText | selectByValue | storeText | typeText | typeVariable
  | verifyText => 3
  | storeAttribute => 4

/-- All commands, in the order of the table. -/
def all : List Command :=
  [gestureNew, gestureMove, gestureClick, gestureKeys, gesturePerform, clear, clearType, click,
    clickAll, keys, selectByText, selectByValue, typeText, typeVariable, baseUrl, openPage,
    findFrame, switchToDefault, switchToFrame, setWindowSize, setVariable, randomSsn,
    storeAttribute, storeText, log, logVariable, delay, verifyText]

/-- The command of a name.  Opening a page has a second name. -/
def ofName? (name : String) : Option Command :=
  if name = "open_url" then some openPage else all.find? fun c => c.name == name

/-- A command with its name and the number of its parameters. -/
def describe (c : Command) : String := s!"{c.name} ({c.arity} params)"

end Command

end BrowserSuite
