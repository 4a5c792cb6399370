/-!
# What can be set on a command line

The settings with their names and letters, and the levels of a command line: the
program itself, its commands, and the commands within a command.
-/

namespace BrowserSuite.CommandLine

/-- Something that a command line can set. -/
inductive Setting where
  | help
  | version
  | verbose
  | logLevel
  | suite
  | base
  | tier
  | debug
  | xml
  | threads
  | config
  | driverUrl
  | headless
  | logFile
  | detailed
  | environment
  | path
  | force
  deriving DecidableEq, Repr

/-- What a setting is followed by. -/
inductive Form where
  /-- Nothing: it is set by being there. -/
  | flag
  | text
  /-- The path of something, which is not empty. -/
  | path
  /-- A whole number of 64 bits. -/
  | number
  deriving DecidableEq, Repr

namespace Setting

/-- The long name of a setting, written behind two dashes. -/
def name : Setting → String
  | help => "help"
  | version => "version"
  | verbose => "verbose"
  | logLevel => "log-level"
  | suite => "suite"
  | base => "base"
  | tier => "tier"
  | debug => "debug"
  | xml => "xml"
  | threads => "threads"
  | config => "config"
  | driverUrl => "webdriver-url"
  | headless => "headless"
  | logFile => "log-file"
  | detailed => "detailed"
  | environment => "env"
  | path => "path"
  | force => "force"

/-- The letter of a setting, written behind one dash, if it has one. -/
def letter? : Setting → Option Char
  | help => some 'h'
  | version => some 'V'
  | verbose => some 'v'
  | suite => some 's'
  | base => some 'b'
  | tier => some 't'
  | debug => some 'd'
  | xml => some 'x'
  | config => some 'c'
  | force => some 'f'
  | _ => none

/-- What a setting is followed by. -/
def form : Setting → Form
  | help | version | verbose | debug | headless | detailed | environment | force => .flag
  | logLevel | base | tier | driverUrl | logFile => .text
  | suite | xml | config | path => .path
  | threads => .number

end Setting

/-- A level of the command line: the program or a command. -/
inductive Level where
  | program
  | run
  | check
  | config
  | showConfig
  | initConfig
  | help
  deriving DecidableEq, Repr

namespace Level

/-- The word for a level on the command line. -/
def name : Level → String
  | program => "uimap-runner"
  | run => "run"
  | check => "check"
  | config => "config"
  | showConfig => "show"
  | initConfig => "init"
  | help => "help"

/-- The commands within a level. -/
def commands : Level → List Level
  | program => [run, check, config, help]
  | config => [showConfig, initConfig, help]
  | _ => []

/-- The settings that are understood at every level. -/
def everywhere : List Setting := [.help, .verbose, .logLevel]

/-- The settings that are understood at a level by name or letter. -/
def settings : Level → List Setting
  | program => .version :: everywhere
  | run => everywhere ++
    [.suite, .base, .tier, .debug, .xml, .threads, .config, .driverUrl, .headless, .logFile]
  | check => everywhere ++ [.suite, .xml, .config, .detailed]
  | showConfig => everywhere ++ [.config, .environment]
  | initConfig => .force :: everywhere
  | config | help => everywhere

/-- The setting that is made by a word of its own, without a name. -/
def unnamed? : Level → Option Setting
  | initConfig => some .path
  | _ => none

/-- The command of a word. -/
def command? (l : Level) (word : String) : Option Level :=
  l.commands.find? fun c => c.name == word

/-- The setting of a long name. -/
def named? (l : Level) (name : String) : Option Setting :=
  l.settings.find? fun s => s.name == name

/-- The setting of a letter. -/
def lettered? (l : Level) (letter : Char) : Option Setting :=
  l.settings.find? fun s => s.letter? == some letter

end Level

end BrowserSuite.CommandLine
