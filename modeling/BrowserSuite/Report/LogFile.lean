import BrowserSuite.Files.Request
import BrowserSuite.Report.Report
import BrowserSuite.Store

/-!
# The log file

A file to which every run adds its settings when it starts and its report when it
is over.  What earlier runs wrote stays.
-/

namespace BrowserSuite

/-- Why nothing could be added to a log file. -/
inductive LogFileError where
  | noDirectory (path : Path) (cause : FileError)
  | unopenable (path : Path) (cause : FileError)
  deriving DecidableEq, Repr

namespace LogFileError

/-- What went wrong. -/
def message : LogFileError → String
  | noDirectory path _ => s!"Failed to create directory: {path.text}"
  | unopenable path _ => s!"Failed to open log file: {path.text}"

/-- Why it went wrong. -/
def cause : LogFileError → FileError
  | noDirectory _ cause | unopenable _ cause => cause

end LogFileError

namespace LogFile

/-- What is added at the start of a run. -/
def startText (time : Moment) (settings : Store) : String :=
  s!"{time.logText}: Driver Starting\nSettings: {settings.snapshot}\n"

/-- The line behind a report. -/
def rule : String := String.ofList (List.replicate 80 '-')

/-- What is added at the end of a run. -/
def finishText (report : Report) : String := s!"\n{report.text}\n{rule}\n"

/-- Adds a text to a log file, which is made if it is missing, with its
directory. -/
def add (path : Path) (text : String) : FileTask LogFileError Unit := do
  FileTask.makeParent .noDirectory path
  FileTask.orFail (.unopenable path) (FileTask.request (.append path text))

end LogFile

end BrowserSuite
