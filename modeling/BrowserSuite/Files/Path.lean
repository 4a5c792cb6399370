import BrowserSuite.Text.Split

/-!
# Paths

A path is kept as it was written, because that is how it is shown.  What it
leads through are its components: an empty one, left by a doubled or a final
slash, and a `.` that does not begin the path do not count.
-/

namespace BrowserSuite

/-- A path as it was written. -/
structure Path where
  text : String
  deriving DecidableEq, Repr, Inhabited

namespace Path

/-- A component of a path with the length of the path's text up to its end. -/
structure Component where
  name : List Char
  stop : Nat
  deriving DecidableEq, Repr

/-- Whether a path starts at the root of the file tree. -/
def isAbsolute (p : Path) : Bool := p.text.toList.head? == some '/'

/-- The pieces between the slashes of a text with the positions of their
ends. -/
def piecesFrom (start : Nat) (pieces : List (List Char)) : List Component :=
  match pieces with
  | [] => []
  | piece :: rest => ⟨piece, start + piece.length⟩ :: piecesFrom (start + piece.length + 1) rest

/-- The components of a path below the root. -/
def components (p : Path) : List Component :=
  let all := piecesFrom 0 (Text.fields ['/'] p.text.toList)
  match all with
  | [] => []
  | first :: rest =>
    let counted := rest.filter fun c => c.name ≠ [] ∧ c.name ≠ ['.']
    if first.name = [] then counted else first :: counted

/-- The path above: the text up to the end of the second last component.  Above
the root and above the empty path there is none. -/
def parent? (p : Path) : Option Path :=
  match p.components.reverse with
  | [] => none
  | [_] => some ⟨if p.isAbsolute then "/" else ""⟩
  | _ :: c :: _ => some ⟨String.ofList (p.text.toList.take c.stop)⟩

/-- The paths above, nearest first.  Every one of them is shorter, so the length
of the path bounds their number. -/
def above : Nat → Path → List Path
  | 0, _ => []
  | fuel + 1, p =>
    match p.parent? with
    | some q => q :: above fuel q
    | none => []

/-- A path and the paths above it, nearest first. -/
def upwards (p : Path) : List Path := p :: above (p.text.length + 1) p

/-- A path below `p`, or the absolute path `q` itself. -/
def join (p q : Path) : Path :=
  if q.isAbsolute then q
  else if p.text.isEmpty || p.text.toList.getLast? == some '/' then ⟨p.text ++ q.text⟩
  else ⟨p.text ++ "/" ++ q.text⟩

/-- The last component, unless it leads upwards or stands for a directory
itself. -/
def fileName? (p : Path) : Option (List Char) :=
  match p.components.getLast? with
  | some c => if c.name = ['.', '.'] ∨ c.name = ['.'] then none else some c.name
  | none => none

/-- What follows the last dot of the file name, if something stands before
it. -/
def extension? (p : Path) : Option String := do
  let name ← p.fileName?
  match Text.fields ['.'] name with
  | [_] => none
  | [[], _] => none
  | fields => fields.getLast?.map String.ofList

end Path

end BrowserSuite
