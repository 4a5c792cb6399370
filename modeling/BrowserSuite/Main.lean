import BrowserSuite.CommandLine.Activity
import BrowserSuite.CommandLine.Offline
import Std.Time.DateTime.Timestamp

/-!
# The program

Does on a real file system what the program asks of its surroundings.  There is
no connection to a driver here, so runs find no browser.
-/

namespace BrowserSuite.CommandLine

/-- What the operating system says about a file error. -/
def fileErrorOf : IO.Error → FileError
  | .noFileOrDirectory .. | .noSuchThing .. => .notFound
  | .alreadyExists .. => .alreadyExists
  | .inappropriateType _ code _ => if code = 21 then .isDirectory else .notDirectory
  | e => .other (toString e)

/-- What becomes of an action on files. -/
def attempted {α : Type} (action : IO α) : IO (Except FileError α) := do
  match ← action.toBaseIO with
  | .ok a => return .ok a
  | .error e => return .error (fileErrorOf e)

/-- The entry of a path in its directory, to ask the file system about. -/
def entryOf (path : Path) : IO.FS.DirEntry := ⟨path.text, ""⟩

/-- What is at a path, if anything. -/
def kindAt (path : Path) : IO (Option FileKind) := do
  match ← attempted (entryOf path).root.metadata with
  | .ok found => return some (if found.type == .dir then .directory else .file)
  | .error _ => return none

/-- The text of a file. -/
def textAt (path : Path) : IO (Except FileError String) := do
  match ← attempted (IO.FS.readBinFile path.text) with
  | .ok bytes =>
    match String.fromUTF8? bytes with
    | some text => return .ok text
    | none => return .error .notText
  | .error e => return .error e

/-- Answers a request for files. -/
def answerFile : (r : FileRequest) → IO r.Reply
  | .kind path => kindAt path
  | .read path => textAt path
  | .list path => attempted do
    return (← (entryOf path).root.readDir).toList.map fun e => e.fileName
  | .absolute path => do
    return (← attempted (IO.FS.realPath path.text)).toOption.map fun found => ⟨found.toString⟩
  | .makeDirectories path => attempted (IO.FS.createDirAll path.text)
  | .write path text => attempted (IO.FS.writeFile path.text text)
  | .append path text => attempted do
    let file ← IO.FS.Handle.mk path.text .append
    file.putStr text

/-- The time of the clock on the wall. -/
def momentNow : IO Moment := do
  let nanos := (← Std.Time.Timestamp.now).toNanosecondsSinceUnixEpoch.val
  return ⟨nanos.fdiv 1000000000, (nanos.fmod 1000000000).toNat⟩

/-- Answers a request of the program. -/
def answer : (r : Request) → IO r.Reply
  | .file r => answerFile r
  | .print text => IO.print text
  | .now => momentNow
  | .runSuites config suites store => return offlineReport config suites store (← momentNow)

/-- Runs the program. -/
def perform {α : Type} : Program Request.Reply α → IO α
  | .done a => pure a
  | .ask r next => do perform (next (← answer r))

/-- The settings of the environment and the home directory. -/
def contextHere : IO Context := do
  let settings ← Environment.descriptions.filterMapM fun (name, _) => do
    let name := Environment.variablePrefix ++ name
    return (← IO.getEnv name).map fun value => (name, value)
  return ⟨Environment.ofVariables settings, ⟨(← IO.getEnv "HOME").getD ""⟩⟩

end BrowserSuite.CommandLine

/-- Runs the program on the words of the command line. -/
def main (words : List String) : IO UInt32 := do
  let exit ← BrowserSuite.CommandLine.perform
    (BrowserSuite.CommandLine.program (← BrowserSuite.CommandLine.contextHere) words)
  IO.eprint exit.error
  return exit.code.toUInt32
