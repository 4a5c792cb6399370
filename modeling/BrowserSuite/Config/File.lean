import BrowserSuite.Config.Json
import BrowserSuite.Config.Printer
import BrowserSuite.Config.Yaml
import BrowserSuite.Files.Request

/-!
# Configuration files

The extension of a file tells YAML from JSON.  Where no file is named, the first
of some usual ones is taken, and where there is none of them either, nothing is
configured.
-/

namespace BrowserSuite

/-- Why a configuration could not be loaded or saved. -/
inductive ConfigError where
  | unreadable (path : Path) (cause : FileError)
  | invalidYaml (path : Path) (cause : String)
  | invalidJson (path : Path) (cause : String)
  | unusable (fault : ConfigFault)
  | noDirectory (path : Path) (cause : FileError)
  | unwritable (path : Path) (cause : FileError)
  deriving DecidableEq, Repr

namespace ConfigError

/-- What went wrong. -/
def message : ConfigError → String
  | unreadable path _ => s!"Failed to read config file: {path.text}"
  | invalidYaml path _ => s!"Failed to parse YAML config: {path.text}"
  | invalidJson path _ => s!"Failed to parse JSON config: {path.text}"
  | unusable fault => fault.message
  | noDirectory path _ => s!"Failed to create directory: {path.text}"
  | unwritable path _ => s!"Failed to write config file: {path.text}"

/-- Why it went wrong. -/
def causes : ConfigError → List String
  | unreadable _ cause | noDirectory _ cause | unwritable _ cause => [cause.message]
  | invalidYaml _ cause | invalidJson _ cause => [cause]
  | unusable _ => []

end ConfigError

namespace Config

/-- Whether a file is written in YAML. -/
def isYaml (path : Path) : Bool :=
  path.extension? == some "yaml" || path.extension? == some "yml"

/-- The configuration that the text of a file stands for, if it can be used. -/
def ofText (path : Path) (text : String) : Except ConfigError Config := do
  let config ← if isYaml path then (ofYaml text).mapError (.invalidYaml path)
    else (ofJson text).mapError (.invalidJson path)
  match config.fault? with
  | some fault => throw (.unusable fault)
  | none => pure config

/-- Loads a file. -/
def load (path : Path) : FileTask ConfigError Config := do
  let text ← FileTask.orFail (.unreadable path) (FileTask.request (.read path))
  ExceptT.mk (.done (ofText path text))

/-- Where a configuration is looked for, given the home directory. -/
def usualPaths (home : Path) : List Path :=
  [⟨"./uimap-runner.yaml"⟩, ⟨"./uimap-runner.yml"⟩, ⟨"./uimap-runner.json"⟩,
    ⟨"./.uimap-runner.yaml"⟩, home.join ⟨".config/uimap-runner/config.yaml"⟩,
    home.join ⟨".uimap-runner.yaml"⟩]

/-- The first of some paths at which there is something. -/
def firstExisting? : List Path → FileTask ConfigError (Option Path)
  | [] => pure none
  | path :: rest => do
    if (← FileTask.kind? path).isSome then pure (some path) else firstExisting? rest

/-- Loads the file that is named, or else the one that is found, or else
nothing. -/
def find (home : Path) (named : Option Path) : FileTask ConfigError Config := do
  let path ← match named with
    | some path => pure (some path)
    | none => firstExisting? (usualPaths home)
  match path with
  | some path => load path
  | none => pure {}

/-- A configuration in the format of a file. -/
def textFor (c : Config) (path : Path) : String := if isYaml path then c.yaml else c.json

/-- Saves a configuration, in a directory that is made if it is missing. -/
def save (c : Config) (path : Path) : FileTask ConfigError Unit := do
  FileTask.makeParent .noDirectory path
  FileTask.orFail (.unwritable path) (FileTask.request (.write path (c.textFor path)))

end Config

end BrowserSuite
