import BrowserSuite.Files.FileError
import BrowserSuite.Files.Path
import BrowserSuite.Program

/-!
# Requests for files

What the library asks of a file system.  Whatever reads or writes files is a
program over these requests, so that it can be run on a file tree in memory as
well as on a disk.
-/

namespace BrowserSuite

/-- What a path leads to. -/
inductive FileKind where
  | file
  | directory
  deriving DecidableEq, Repr

/-- A request to a file system. -/
inductive FileRequest where
  /-- What is at a path, if anything. -/
  | kind (path : Path)
  /-- The text of a file. -/
  | read (path : Path)
  /-- The names in a directory. -/
  | list (path : Path)
  /-- The absolute path of what is at a path, without detours. -/
  | absolute (path : Path)
  /-- Makes a directory and those above it, as far as they are missing. -/
  | makeDirectories (path : Path)
  /-- Makes a text the content of a file. -/
  | write (path : Path) (text : String)
  /-- Adds a text to the end of a file. -/
  | append (path : Path) (text : String)
  deriving DecidableEq, Repr

/-- What a request to a file system is answered with. -/
abbrev FileRequest.Reply : FileRequest → Type
  | .kind _ => Option FileKind
  | .read _ => Except FileError String
  | .list _ => Except FileError (List String)
  | .absolute _ => Option Path
  | .makeDirectories _ | .write _ _ | .append _ _ => Except FileError Unit

/-- A program on files that ends with a value or an error. -/
abbrev FileTask (ε : Type) := ExceptT ε (Program FileRequest.Reply)

namespace FileTask

variable {ε : Type}

/-- Asks a request. -/
def request (r : FileRequest) : FileTask ε r.Reply :=
  ExceptT.mk (Program.ask r fun reply => .done (.ok reply))

/-- What is at a path, if anything. -/
def kind? (path : Path) : FileTask ε (Option FileKind) := request (.kind path)

/-- Whether a path leads to a directory. -/
def isDirectory (path : Path) : FileTask ε Bool := do return (← kind? path) == some .directory

/-- Whether a path leads to a file. -/
def isFile (path : Path) : FileTask ε Bool := do return (← kind? path) == some .file

/-- Goes on with what a request is answered with, or fails with an error of its
own. -/
def orFail {α : Type} (wrap : FileError → ε) (reply : FileTask ε (Except FileError α)) :
    FileTask ε α := do
  match ← reply with
  | .ok a => pure a
  | .error e => throw (wrap e)

/-- The first of some paths that is of a kind. -/
def firstOfKind? (kind : FileKind) : List Path → FileTask ε (Option Path)
  | [] => pure none
  | p :: rest => do
    if (← kind? p) == some kind then pure (some p) else firstOfKind? kind rest

/-- Makes the directory in which a path is, as far as the path names one. -/
def makeParent (wrap : Path → FileError → ε) (path : Path) : FileTask ε Unit :=
  match path.parent? with
  | some parent =>
    if parent.text.isEmpty then pure ()
    else orFail (wrap parent) (request (.makeDirectories parent))
  | none => pure ()

end FileTask

end BrowserSuite
