import BrowserSuite.CommandLine.Arguments
import BrowserSuite.CommandLine.Surroundings
import BrowserSuite.Config.Environment
import BrowserSuite.Config.File
import BrowserSuite.Report.LogFile
import BrowserSuite.UiMap.Loading

/-!
# What the program does

Every job as a program on its surroundings.  What the command line says comes
before what the environment says, and that before the configuration file; only
the tier of the environment comes before that of the command line.
-/

namespace BrowserSuite.CommandLine

/-- What is known about the place where the program runs: the settings of the
environment and the home directory. -/
structure Context where
  environment : Environment
  home : Path
  deriving DecidableEq, Repr

/-- A configuration with the settings of the command line laid over it. -/
def RunArguments.apply (a : RunArguments) (c : Config) : Config :=
  { c with
    threadCount := a.threads.getD c.threadCount
    logFile := a.logFile.getD c.logFile
    driver := { c.driver with
      url := a.driverUrl.getD c.driver.url
      headless := a.headless || c.driver.headless } }

namespace Activity

/-- The configuration of the file that is named, or else of the file that the
environment names, or else of a file in a usual place, with the settings of the
environment. -/
def configuration (context : Context) (named : Option Path) : Activity Config := do
  let named := named.orElse fun _ => context.environment.configFile.map Path.mk
  let config ← onFiles (fun e => ⟨e.message, e.causes⟩) (Config.find context.home named)
  return context.environment.apply config

/-- Where the UI maps are. -/
def mapSource (c : Config) : UiMapSource := ⟨c.delimiter, ⟨c.uiMapDirectory⟩⟩

/-- The suites that a path names. -/
def suites (c : Config) (path : Path) (xml : Option Path) : Activity (List Suite) :=
  onFiles (fun e => ⟨s!"Failed to load suites from {path.text}", e.message :: e.causes⟩)
    ((mapSource c).load path xml)

/-! ## Running -/

/-- The tier of a run. -/
def tier (context : Context) (a : RunArguments) : String := context.environment.tier.getD a.tier

/-- The base URL of a run. -/
def base (context : Context) (a : RunArguments) : Activity String :=
  match a.base with
  | some url => pure url
  | none => do
    let url ← onFiles
      (fun e => ⟨"No --base given and no base.url found", e.message :: e.causes⟩)
      (Loading.baseUrl a.suite)
    return resolveBaseUrl url (tier context a)

/-- The variables that every suite of a run begins with. -/
def startingStore (context : Context) (a : RunArguments) (base : String) : Store :=
  Store.ofMembers [
    ("suite", .string a.suite.text),
    ("base", .string base),
    ("tier", .string (tier context a)),
    ("debug", .bool a.debug),
    ("xml", match a.xml with | some path => .string path.text | none => .null)]

/-- Adds a text to the log file. -/
def addToLog (c : Config) (text : String) : Activity Unit :=
  onFiles (fun e => ⟨e.message, [e.cause.message]⟩) (LogFile.add ⟨c.logFile⟩ text)

/-- Runs suites, and tells whether all of them passed. -/
def runSuites (context : Context) (a : RunArguments) : Activity Bool := do
  let config := a.apply (← configuration context a.config)
  match config.fault? with
  | some fault => throw ⟨fault.message, []⟩
  | none => pure ()
  let store := startingStore context a (← base context a)
  let suites ← suites config a.suite a.xml
  addToLog config (LogFile.startText (← request .now) store)
  let report ← request (.runSuites config suites store)
  print s!"\n{report.text}\n{report.counts}\n"
  addToLog config (LogFile.finishText report)
  return report.isAllPassed

/-! ## Checking -/

/-- A text with blanks behind it, up to some number of characters. -/
def padRight (width : Nat) (text : String) : String :=
  text ++ String.ofList (List.replicate (width - text.length) ' ')

/-- A number with blanks in front, up to some number of characters. -/
def padLeft (width n : Nat) : String :=
  String.ofList (List.replicate (width - (toString n).length) ' ') ++ toString n

/-- The lines about a page. -/
def pageLines (detailed : Bool) (p : Page) : List String :=
  s!"  {padRight 30 p.name} {padLeft 3 p.actions.length} actions" ::
    (if detailed then p.actions.map fun a => "      " ++ a.describe else [])

/-- The lines about a suite. -/
def suiteLines (detailed : Bool) (s : Suite) : List String :=
  s!"{s.name} ({s.actionCount} actions)" :: s.pages.flatMap (pageLines detailed)

/-- The list of the suites that were checked. -/
def listing (detailed : Bool) (suites : List Suite) : String :=
  let lines := ["", s!"{suites.length} suites", ""] ++ suites.flatMap (suiteLines detailed) ++
    ["", "✓ All suites are valid"]
  Text.join "\n" lines ++ "\n"

/-- Loads suites and lists them. -/
def checkSuites (context : Context) (a : CheckArguments) : Activity Unit := do
  let config ← configuration context a.config
  print (listing a.detailed (← suites config a.suite a.xml))

/-! ## Configurations -/

/-- What the environment can set. -/
def environmentHelp : String :=
  let lines := Environment.descriptions.map fun (name, purpose) =>
    "  " ++ Environment.variablePrefix ++ padRight 15 name ++ purpose
  Text.join "\n" (["Environment Variables:", ""] ++ lines) ++ "\n"

/-- Shows the configuration that is in force. -/
def showConfig (context : Context) (named : Option Path) (environment : Bool) : Activity Unit := do
  if environment then print (environmentHelp ++ "\n")
  print ((← configuration context named).yaml ++ "\n")

/-- Writes a configuration that says what holds anyway. -/
def initConfig (path : Path) (force : Bool) : Activity Unit := do
  let found ← onFiles (ε := Failure) id (FileTask.kind? path)
  if found.isSome && !force then
    throw ⟨s!"Configuration file already exists: {path.text}. Use --force to overwrite.", []⟩
  onFiles (fun e => ⟨e.message, e.causes⟩) (Config.save {} path)
  print s!"✓ Configuration file created: {path.text}\n\nEdit the file to customize your settings.\n"

/-! ## All of it -/

/-- Does a job, and tells whether it went well. -/
def ofJob (context : Context) : Job → Activity Bool
  | .run a => runSuites context a
  | .check a => do checkSuites context a; return true
  | .showConfig named environment => do showConfig context named environment; return true
  | .initConfig path force => do initConfig path force; return true

end Activity

/-- How the program ends. -/
structure Exit where
  code : Nat
  /-- What is printed about an error. -/
  error : String
  deriving DecidableEq, Repr

/-- What the program prints when it is asked for its version. -/
def versionText : String := "uimap-runner 0.1.0\n"

/-- What the program prints when it is asked for help. -/
def helpText : String := "Usage: uimap-runner [OPTIONS] <run|check|config|help>\n"

/-- The exit after a usage error. -/
def Exit.ofUsage : UsageError → Program Request.Reply Exit
  | .versionWanted => .ask (.print versionText) fun _ => .done ⟨0, ""⟩
  | .helpWanted => .ask (.print helpText) fun _ => .done ⟨0, ""⟩
  | e => .done ⟨2, s!"error: {e.message}\n"⟩

/-- The exit after an activity. -/
def Exit.ofResult : Except Failure Bool → Exit
  | .ok true => ⟨0, ""⟩
  | .ok false => ⟨1, ""⟩
  | .error f => ⟨1, f.text⟩

/-- The whole program, given the words behind its name. -/
def program (context : Context) (words : List String) : Program Request.Reply Exit :=
  match Arguments.ofWords words with
  | .error e => Exit.ofUsage e
  | .ok a => do return Exit.ofResult (← ExceptT.run (Activity.ofJob context a.job))

end BrowserSuite.CommandLine
