import BrowserSuite.Config.Config
import BrowserSuite.Json.Printer
import BrowserSuite.Yaml.Printer

/-!
# Writing a configuration

A configuration is written with all its settings, in a fixed order, one on a
line.  The settings of the driver are a group, written two columns further in.
-/

namespace BrowserSuite.Config

/-- The value of a setting. -/
inductive Setting where
  | number (n : Nat)
  | text (s : String)
  | truth (b : Bool)

/-- A setting or a group of them. -/
inductive Member where
  | setting (s : Setting)
  | group (settings : List (String × Setting))

/-- The settings of the driver, in the order in which they are written. -/
def driverMembers (d : DriverConfig) : List (String × Setting) :=
  [("url", .text d.url), ("browser", .text d.browser), ("headless", .truth d.headless)]

/-- The settings, in the order in which they are written. -/
def members (c : Config) : List (String × Member) := [
  ("thread_count", .setting (.number c.threadCount)),
  ("action_delay_ms", .setting (.number c.actionDelay)),
  ("page_delay_ms", .setting (.number c.pageDelay)),
  ("wait_timeout_secs", .setting (.number c.waitTimeout)),
  ("attempt_delay_ms", .setting (.number c.attemptDelay)),
  ("log_file", .setting (.text c.logFile)),
  ("delimiter", .setting (.text c.delimiter)),
  ("ui_map_directory", .setting (.text c.uiMapDirectory)),
  ("webdriver", .group (driverMembers c.driver))]

/-! ## JSON -/

/-- A text between quotation marks. -/
def quoted (s : String) : String := String.ofList (Json.quote s.toList)

/-- The value of a setting in JSON. -/
def Setting.json : Setting → String
  | number n => toString n
  | text s => quoted s
  | truth b => toString b

/-- An object with its members on lines of their own, behind an indentation. -/
def jsonObject (indent : String) (members : List (String × String)) : String :=
  let lines := members.map fun (name, value) =>
    "\n" ++ indent ++ "  " ++ quoted name ++ ": " ++ value
  "\x7b" ++ ",".intercalate lines ++ "\n" ++ indent ++ "\x7d"

/-- A setting or a group in JSON. -/
def Member.json : Member → String
  | setting s => s.json
  | group settings => jsonObject "  " (settings.map fun (name, s) => (name, s.json))

/-- A configuration in JSON. -/
def json (c : Config) : String :=
  jsonObject "" (c.members.map fun (name, m) => (name, m.json))

/-! ## YAML -/

/-- The value of a setting in YAML; its own lines are indented by `indent`. -/
def Setting.yaml (indent : Nat) : Setting → String
  | number n => toString n
  | text s => Yaml.written indent s
  | truth b => toString b

/-- A setting or a group as lines of YAML. -/
def Member.yamlLines (name : String) : Member → List String
  | setting s => [name ++ ": " ++ s.yaml 2]
  | group settings =>
    (name ++ ":") :: settings.map fun (name, s) => "  " ++ name ++ ": " ++ s.yaml 4

/-- A configuration in YAML. -/
def yaml (c : Config) : String :=
  String.join ((c.members.flatMap fun (name, m) => m.yamlLines name).map (· ++ "\n"))

end BrowserSuite.Config
