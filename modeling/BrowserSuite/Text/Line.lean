import BrowserSuite.Text.Blank

/-!
# Lines

A line ends at a line feed; one carriage return before the line feed belongs to
the end of the line, a lone carriage return does not end one.  A text that ends
in a line feed has no empty line after it.
-/

namespace BrowserSuite.Text

/-- The text before the first line feed and, if there is one, the text after it. -/
def cutLine : List Char → List Char × Option (List Char)
  | [] => ([], none)
  | c :: rest =>
    if c = '\n' then ([], some rest)
    else ((c :: (cutLine rest).1), (cutLine rest).2)

/-- A line without the carriage return at its end. -/
def dropReturn (line : List Char) : List Char :=
  if line.getLast? = some '\r' then line.dropLast else line

theorem length_cutLine {s rest : List Char} (h : (cutLine s).2 = some rest) :
    rest.length < s.length := by
  induction s with
  | nil => simp [cutLine] at h
  | cons c r ih =>
    by_cases hc : c = '\n'
    · simp [cutLine, hc] at h
      simp [h]
    · simp only [cutLine, hc, if_false] at h
      exact Nat.lt_succ_of_lt (ih h)

/-- The lines of a text, without what ends them. -/
def linesOf (s : List Char) : List (List Char) :=
  if s = [] then []
  else
    match _h : cutLine s with
    | (line, none) => [line]
    | (line, some rest) => dropReturn line :: linesOf rest
termination_by s.length
decreasing_by exact length_cutLine (by rw [_h])

/-- The lines of a text, without what ends them. -/
def lines (s : String) : List String := (linesOf s.toList).map String.ofList

end BrowserSuite.Text
