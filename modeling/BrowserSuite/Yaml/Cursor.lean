/-!
# A place in a YAML text

A YAML text is read line by line, and much depends on the column at which
something stands.  A cursor is what is left of the text together with the
place reached.
-/

namespace BrowserSuite.Yaml

/-- A place in a text: the number of characters before it, its line and its
column, all from zero. -/
structure Mark where
  index : Nat
  line : Nat
  column : Nat
  deriving DecidableEq, Repr, Inhabited

/-- The start of a text. -/
def Mark.start : Mark := ⟨0, 0, 0⟩

/-- A place in words. -/
def Mark.describe (m : Mark) : String :=
  "line " ++ toString (m.line + 1) ++ " column " ++ toString (m.column + 1)

/-- What is wrong with a text, where, and while what was being read. -/
structure Fault where
  problem : String
  place : Mark
  during : Option (String × Mark)
  deriving DecidableEq, Repr

/-- A fault in words.  The start of the text is not worth a place. -/
def Fault.message (f : Fault) : String :=
  let at_ := fun (m : Mark) => if m.line = 0 ∧ m.column = 0 then "" else " at " ++ m.describe
  let during := match f.during with
    | some (activity, m) =>
      let same := m.line = f.place.line ∧ m.column = f.place.column
      ", " ++ activity ++ if same then "" else at_ m
    | none => ""
  f.problem ++ at_ f.place ++ during

/-- The character that stands for the end of the text. -/
def endOfText : Char := '\x00'

/-- Whether a character is a space or a tab. -/
def isGap (c : Char) : Bool := c == ' ' || c == '\t'

/-- Whether a character breaks a line. -/
def isBreak (c : Char) : Bool :=
  c == '\n' || c == '\r' || c == '\x85' || c == '\u2028' || c == '\u2029'

/-- Whether a character ends a line or the text. -/
def isLineEnd (c : Char) : Bool := isBreak c || c == endOfText

/-- Whether a character ends a word. -/
def isWordEnd (c : Char) : Bool := isGap c || isLineEnd c

/-- Whether a character can be in a name. -/
def isNameChar (c : Char) : Bool := c.isAlphanum || c == '_' || c == '-'

/-- Whether a text may hold a character at all. -/
def isAllowed (c : Char) : Bool :=
  let n := c.toNat
  n == 0x09 || n == 0x0A || n == 0x0D || (0x20 ≤ n && n ≤ 0x7E) || n == 0x85 ||
    (0xA0 ≤ n && n ≤ 0xD7FF) || (0xE000 ≤ n && n ≤ 0xFFFD) || 0x10000 ≤ n

/-- The rest of a text and the place it begins at. -/
structure Cursor where
  rest : List Char
  mark : Mark

namespace Cursor

/-- The character so many places ahead. -/
def look (c : Cursor) (ahead : Nat) : Char := c.rest.getD ahead endOfText

/-- The column reached. -/
def column (c : Cursor) : Nat := c.mark.column

/-- Goes past a character that does not break the line. -/
def skip (c : Cursor) : Cursor :=
  match c.rest with
  | [] => c
  | _ :: rest => ⟨rest, ⟨c.mark.index + 1, c.mark.line, c.mark.column + 1⟩⟩

/-- Goes past some characters of the line. -/
def skipMany : Nat → Cursor → Cursor
  | 0, c => c
  | n + 1, c => skipMany n c.skip

/-- The line break at the cursor, in the form in which it counts, and the cursor
behind it.  Elsewhere the cursor does not move. -/
def readBreak (c : Cursor) : List Char × Cursor :=
  let next := fun (used : Nat) (rest : List Char) =>
    (⟨rest, ⟨c.mark.index + used, c.mark.line + 1, 0⟩⟩ : Cursor)
  match c.rest with
  | '\r' :: '\n' :: rest => (['\n'], next 2 rest)
  | b :: rest =>
    if b = '\u2028' ∨ b = '\u2029' then ([b], next 1 rest)
    else if isBreak b then (['\n'], next 1 rest)
    else ([], c)
  | [] => ([], c)

/-- Goes past the line break at the cursor. -/
def skipBreak (c : Cursor) : Cursor := c.readBreak.2

/-- The characters of the line up to the first that fails a test. -/
def readWhile (test : Char → Bool) (c : Cursor) : List Char × Cursor :=
  let read := c.rest.takeWhile test
  (read, skipMany read.length c)

/-- Goes past the characters of the line that pass a test. -/
def skipWhile (test : Char → Bool) (c : Cursor) : Cursor := (c.readWhile test).2

/-- Whether three marks that stand alone begin the line: they end or begin a
document. -/
def isDocumentMark (mark : Char) (c : Cursor) : Bool :=
  c.column == 0 && c.look 0 == mark && c.look 1 == mark && c.look 2 == mark &&
    isWordEnd (c.look 3)

/-- Whether a document ends or begins at the cursor. -/
def atDocumentMark (c : Cursor) : Bool := c.isDocumentMark '-' || c.isDocumentMark '.'

/-- An upper bound of the steps that reading the rest of the text takes. -/
def fuel (c : Cursor) : Nat := c.rest.length + 1

end Cursor

end BrowserSuite.Yaml
