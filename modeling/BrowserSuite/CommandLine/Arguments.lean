import BrowserSuite.CommandLine.Reading
import BrowserSuite.Files.Path

/-!
# Arguments

What a command line says to do.
-/

namespace BrowserSuite.CommandLine

/-- How suites are to be run. -/
structure RunArguments where
  suite : Path
  base : Option String
  tier : String
  debug : Bool
  xml : Option Path
  threads : Option Nat
  config : Option Path
  driverUrl : Option String
  headless : Bool
  logFile : Option String
  deriving DecidableEq, Repr

/-- How suites are to be checked. -/
structure CheckArguments where
  suite : Path
  xml : Option Path
  config : Option Path
  detailed : Bool
  deriving DecidableEq, Repr

/-- What there is to do. -/
inductive Job where
  | run (a : RunArguments)
  | check (a : CheckArguments)
  | showConfig (config : Option Path) (environment : Bool)
  | initConfig (path : Path) (force : Bool)
  deriving DecidableEq, Repr

/-- The path of a setting. -/
def Given.path? (g : Given) (s : Setting) : Option Path := (g.lookup s).map Path.mk

/-- Whether a setting is made. -/
def Given.has (g : Given) (s : Setting) : Bool := (g.lookup s).isSome

/-- The path of the suites, which has to be given. -/
def Given.suite (g : Given) : Except UsageError Path :=
  match Given.path? g .suite with
  | some path => .ok path
  | none => .error (.missing .suite)

/-- The tier where none is given. -/
def standardTier : String := "qa"

/-- The path of a new configuration where none is given. -/
def standardConfigPath : Path := ⟨"uimap-runner.yaml"⟩

/-- What there is to do at the innermost level of a command line. -/
def Level.job (l : Level) (g : Given) : Except UsageError Job :=
  match l with
  | .run => do
    let suite ← Given.suite g
    return .run {
      suite := suite
      base := g.lookup .base
      tier := (g.lookup .tier).getD standardTier
      debug := Given.has g .debug
      xml := Given.path? g .xml
      threads := (g.lookup .threads).bind (Number.unsigned? (Nat.pow 2 64))
      config := Given.path? g .config
      driverUrl := g.lookup .driverUrl
      headless := Given.has g .headless
      logFile := g.lookup .logFile }
  | .check => do
    let suite ← Given.suite g
    return .check ⟨suite, Given.path? g .xml, Given.path? g .config, Given.has g .detailed⟩
  | .showConfig => .ok (.showConfig (Given.path? g .config) (Given.has g .environment))
  | .initConfig =>
    .ok (.initConfig ((Given.path? g .path).getD standardConfigPath) (Given.has g .force))
  | .program | .config | .help => .error (if g.isEmpty then .nothing else .noCommand)

/-- What a command line says to do, and how much to tell about it. -/
structure Arguments where
  job : Job
  verbose : Bool
  logLevel : String
  deriving DecidableEq, Repr

/-- The log level where none is given. -/
def standardLogLevel : String := "info"

/-- Reads the words behind the name of the program.  Of a setting that is made at
several levels the innermost one counts. -/
def Arguments.ofWords (words : List String) : Except UsageError Arguments := do
  let p ← Position.read words ⟨.program, {}, []⟩
  let inner := (← p.reading.settle).given
  let job ← p.level.job inner
  let around ← p.around.mapM fun r => do return (← r.settle).given
  let given : Given := inner ++ around.flatten
  return ⟨job, Given.has given .verbose, (given.lookup .logLevel).getD standardLogLevel⟩

end BrowserSuite.CommandLine
