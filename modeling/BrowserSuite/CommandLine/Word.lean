import BrowserSuite.Text.Split

/-!
# The words of a command line

A word that begins with a dash names settings: behind two dashes one by its long
name, behind one dash any number by their letters.  A dash alone is a word like
any other, and two dashes alone say that only such words follow.
-/

namespace BrowserSuite.CommandLine

/-- A word of a command line by its dashes. -/
inductive Word where
  | onlyPlainFollow
  | long (name : String) (value : Option String)
  | letters (letters : List Char)
  | plain
  deriving DecidableEq, Repr

/-- What kind of word a text is. -/
def Word.ofText (text : String) : Word :=
  match text.toList with
  | ['-', '-'] => onlyPlainFollow
  | '-' :: '-' :: rest =>
    match Text.cut? ['='] rest with
    | some (name, value) => long (String.ofList name) (some (String.ofList value))
    | none => long (String.ofList rest) none
  | ['-'] => plain
  | '-' :: rest => letters rest
  | _ => plain

end BrowserSuite.CommandLine
