import BrowserSuite.Files.Request

/-!
# File trees

A file system in memory.  It maps the place of everything but the root, given
by the names on the way there, to a directory or a file.  A path is followed
from the root or from the working directory; every place on its way has to be a
directory.
-/

namespace BrowserSuite

/-- What a file holds: a text, or bytes that are no text. -/
inductive Content where
  | text (s : String)
  | bytes
  deriving DecidableEq, Repr

/-- What is at a place. -/
inductive Entry where
  | directory
  | file (content : Content)
  deriving DecidableEq, Repr

/-- A place in a file tree: the names on the way from the root. -/
abbrev Place := List String

/-- A file system, and the directory at which paths that are not absolute
begin. -/
structure FileTree where
  entries : List (Place × Entry)
  workingDirectory : Place
  deriving DecidableEq, Repr

namespace FileTree

/-- What is at a place. -/
def at? (t : FileTree) (place : Place) : Option Entry :=
  if place = [] then some .directory else t.entries.lookup place

/-- Puts an entry at a place. -/
def put (t : FileTree) (place : Place) (entry : Entry) : FileTree :=
  { t with entries := (place, entry) :: t.entries.filter fun e => e.1 ≠ place }

/-- The most bytes in a name, and in a path. -/
def longestName : Nat := 255

/-- The most bytes in a path. -/
def longestPath : Nat := 4095

/-- Goes from a directory along some names.  An empty name, as behind a final
slash, stays where it is, but like any other it has to be in a directory. -/
def walk (t : FileTree) (place : Place) : List String → Except FileError Place
  | [] => .ok place
  | name :: rest =>
    if t.at? place ≠ some .directory then .error .notDirectory
    else if name = "" ∨ name = "." then t.walk place rest
    else if name = ".." then t.walk place.dropLast rest
    else if longestName < name.utf8ByteSize then .error .nameTooLong
    else
      match t.at? (place ++ [name]) with
      | none => .error .notFound
      | some _ => t.walk (place ++ [name]) rest

/-- The names between the slashes of a path. -/
def names (path : Path) : List String := Text.split "/" path.text

/-- Where a path begins. -/
def startOf (t : FileTree) (path : Path) : Place :=
  if path.isAbsolute then [] else t.workingDirectory

/-- Refuses a path that can lead nowhere. -/
def admissible (path : Path) : Except FileError Unit :=
  if path.text.toList.contains '\x00' then .error .zeroInPath
  else if path.text.isEmpty then .error .notFound
  else if longestPath < path.text.utf8ByteSize then .error .nameTooLong
  else .ok ()

/-- The place that a path leads to, where something is. -/
def find (t : FileTree) (path : Path) : Except FileError Place := do
  admissible path
  t.walk (t.startOf path) (names path)

/-- What is at a path. -/
def entry (t : FileTree) (path : Path) : Except FileError Entry := do
  match t.at? (← t.find path) with
  | some e => pure e
  | none => throw .notFound

/-- The kind of an entry. -/
def Entry.kind : Entry → FileKind
  | .directory => .directory
  | .file _ => .file

/-- The absolute path of a place. -/
def pathOf (place : Place) : Path :=
  ⟨if place.isEmpty then "/" else String.join (place.map ("/" ++ ·))⟩

/-- The text of the file at a path. -/
def read (t : FileTree) (path : Path) : Except FileError String := do
  match ← t.entry path with
  | .directory => throw .isDirectory
  | .file .bytes => throw .notText
  | .file (.text s) => pure s

/-- The names in a directory. -/
def list (t : FileTree) (path : Path) : Except FileError (List String) := do
  let place ← t.find path
  if t.at? place ≠ some .directory then throw .notDirectory
  pure (t.entries.filterMap fun e =>
    if e.1.dropLast = place then e.1.getLast? else none)

/-- The place at which a path would put something new: in the directory that the
path leads to without its last name. -/
def newPlace (t : FileTree) (path : Path) : Except FileError Place := do
  admissible path
  let trimmed := (names path).reverse.dropWhile (· = "")
  match trimmed with
  | [] => pure []
  | last :: before => do
    let directory ← t.walk (t.startOf path) before.reverse
    if t.at? directory ≠ some .directory then throw .notDirectory
    if last = "." then pure directory
    else if last = ".." then pure directory.dropLast
    else if longestName < last.utf8ByteSize then throw .nameTooLong
    else pure (directory ++ [last])

/-- Makes one directory. -/
def makeDirectory (t : FileTree) (path : Path) : Except FileError FileTree := do
  let place ← t.newPlace path
  match t.at? place with
  | some _ => throw .alreadyExists
  | none => pure (t.put place .directory)

/-- Makes the directory at a path where there is none. -/
def ensureDirectory (t : FileTree) (path : Path) : Except FileError FileTree :=
  match t.makeDirectory path with
  | .ok t => .ok t
  | .error e =>
    match t.entry path with
    | .ok .directory => .ok t
    | _ => .error e

/-- Makes directories, given from the lowest upwards, so that the lowest exists:
those above it are made only if it cannot be made without them. -/
def makeUpwards (t : FileTree) : List Path → Except FileError FileTree
  | [] => .ok t
  | path :: above =>
    if path.text.isEmpty then .ok t
    else
      match t.makeDirectory path with
      | .error .notFound => do (← t.makeUpwards above).ensureDirectory path
      | _ => t.ensureDirectory path

/-- Makes a directory and those above it, as far as they are missing. -/
def makeDirectories (t : FileTree) (path : Path) : Except FileError FileTree :=
  t.makeUpwards path.upwards

/-- The place of a file to be written, and what it held. -/
def openFile (t : FileTree) (path : Path) : Except FileError (Place × Option Content) := do
  let place ← t.newPlace path
  match t.at? place with
  | some .directory => throw .isDirectory
  | found =>
    if path.text.toList.getLast? = some '/' then throw .isDirectory
    match found with
    | some (.file content) => pure (place, some content)
    | _ => pure (place, none)

/-- Makes a text the content of a file. -/
def write (t : FileTree) (path : Path) (text : String) : Except FileError FileTree := do
  let (place, _) ← t.openFile path
  pure (t.put place (.file (.text text)))

/-- Adds a text to the end of a file. -/
def append (t : FileTree) (path : Path) (text : String) : Except FileError FileTree := do
  let (place, before) ← t.openFile path
  let content := match before with
    | some (.text s) => .text (s ++ text)
    | some .bytes => .bytes
    | none => .text text
  pure (t.put place (.file content))

/-- The reply to a change, and the tree after it. -/
def changed (t : FileTree) (result : Except FileError FileTree) :
    Except FileError Unit × FileTree :=
  match result with
  | .ok t => (.ok (), t)
  | .error e => (.error e, t)

/-- The reply to a request, and the tree after it. -/
def answer (t : FileTree) : (r : FileRequest) → r.Reply × FileTree
  | .kind path => ((t.entry path).toOption.map Entry.kind, t)
  | .read path => (t.read path, t)
  | .list path => (t.list path, t)
  | .absolute path => ((t.find path).toOption.map pathOf, t)
  | .makeDirectories path => t.changed (t.makeDirectories path)
  | .write path text => t.changed (t.write path text)
  | .append path text => t.changed (t.append path text)

/-- Runs a program on a file tree. -/
def run {ε α : Type} (t : FileTree) (task : FileTask ε α) : Except ε α × FileTree :=
  Program.run answer task.run t

end FileTree

end BrowserSuite
