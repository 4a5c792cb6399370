import BrowserSuite.Files.Request
import BrowserSuite.UiMap.FilterExport
import BrowserSuite.UiMap.Instruction
import BrowserSuite.UiMap.Line
import BrowserSuite.UiMap.LoadError

/-!
# Loading suites

A suite file lists UI maps, one on each line; a UI map lists actions, one on
each line.  The UI maps are in a directory that is found by its name, from the
suites upwards.  Everything is read before anything is run, and every action is
checked, so that a run meets no action that it cannot make an instruction of.
-/

namespace BrowserSuite

/-- How UI maps are written and where they are: what separates the fields of an
action, and the name of the directory that holds them. -/
structure UiMapSource where
  delimiter : String
  directory : Path
  deriving DecidableEq, Repr

/-- The actions of the lines of a UI map, or what is wrong with the first bad
one. -/
def checkedActions (delimiter : String) (lines : List (Nat × String)) :
    Except RunError (List Action) :=
  lines.mapM fun (n, text) => do
    let action := Action.ofLine text delimiter n
    let _ ← action.instruction
    pure action

namespace Loading

/-- The content of a file. -/
def read (path : Path) : FileTask LoadError String :=
  FileTask.orFail (.unreadable path) (FileTask.request (.read path))

/-- The lines of a file that count, with their numbers. -/
def lines (path : Path) : FileTask LoadError (List (Nat × String)) := do
  return effectiveLines (← read path)

/-- The page of a UI map in a directory. -/
def page (delimiter : String) (maps : Path) (name : String) : FileTask LoadError Page := do
  let path := maps.join ⟨name⟩
  match checkedActions delimiter (← lines path) with
  | .ok actions => pure ⟨name, actions⟩
  | .error e => throw (.badAction path e)

/-- The suite of a suite file, which is named after the file. -/
def suite (delimiter : String) (maps file : Path) : FileTask LoadError Suite := do
  let pages ← (← lines file).mapM fun l => page delimiter maps l.2
  pure ⟨file.text, pages⟩

/-- The directory of a suite path: the path itself if it leads to a directory,
otherwise the path above. -/
def suiteDirectory (path : Path) : FileTask LoadError Path := do
  let directory := if ← FileTask.isDirectory path then path else path.parent?.getD ⟨""⟩
  pure (if directory.text.isEmpty then ⟨"."⟩ else directory)

/-- A path and everything above it, nearest first.  If something is there, its
absolute path counts. -/
def upwards (start : Path) : FileTask LoadError (List Path) := do
  return ((← FileTask.request (.absolute start)).getD start).upwards

/-- The nearest directory of a name, from `start` upwards. -/
def locateMaps (start name : Path) : FileTask LoadError Path := do
  let candidates := (← upwards start).map (·.join name)
  match ← FileTask.firstOfKind? .directory candidates with
  | some maps => pure maps
  | none => throw (.noUiMaps name.text start)

/-- The files of a directory, sorted by name. -/
def filesOf (directory : Path) : FileTask LoadError (List Path) := do
  let names ← FileTask.orFail (.unreadable directory) (FileTask.request (.list directory))
  let paths := (names.mergeSort fun a b => decide (a ≤ b)).map fun n => directory.join ⟨n⟩
  paths.filterM fun p => FileTask.isFile p

/-- The suite files that a path names: those that the export lists, if there is
one, otherwise all files of a directory or the file itself. -/
def suiteFiles (path directory : Path) (filterExport : Option Path) :
    FileTask LoadError (List Path) := do
  match filterExport with
  | some filterExport =>
    return (FilterExport.keys (← read filterExport)).map fun key => directory.join ⟨key⟩
  | none => if ← FileTask.isDirectory path then filesOf path else pure [path]

/-- The name of the file with the base URL. -/
def baseUrlFile : Path := ⟨"base.url"⟩

/-- The base URL for the suites at a path: the first line of the nearest file
with one. -/
def baseUrl (path : Path) : FileTask LoadError String := do
  let start ← suiteDirectory path
  let candidates := (← upwards start).map (·.join baseUrlFile)
  match ← FileTask.firstOfKind? .file candidates with
  | some file => return Text.trim ((Text.lines (← read file)).headD "")
  | none => throw (.noBaseUrl start)

end Loading

/-- The suites that a path names: a suite file or a directory of suite files, of
which a filter export can make a choice. -/
def UiMapSource.load (source : UiMapSource) (path : Path) (filterExport : Option Path) :
    FileTask LoadError (List Suite) := do
  if (← FileTask.kind? path).isNone then throw (.noSuites path)
  let directory ← Loading.suiteDirectory path
  let maps ← Loading.locateMaps directory source.directory
  let files ← Loading.suiteFiles path directory filterExport
  files.mapM fun file => Loading.suite source.delimiter maps file

end BrowserSuite
