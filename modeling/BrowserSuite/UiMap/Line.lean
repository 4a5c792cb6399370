import BrowserSuite.Text.Blank
import BrowserSuite.Text.Line

/-!
# The lines that count

Suite files and UI maps are read line by line.  A line without the blanks
around it counts unless it is empty or a comment, which begins with `#`; it
keeps the number that it has in the file, where the first line is number one.
-/

namespace BrowserSuite

/-- Whether a line without blanks around it counts. -/
def isEffective (line : String) : Bool := line ≠ "" && line.toList.head? ≠ some '#'

/-- The lines of a file that count, with their numbers. -/
def effectiveLines (content : String) : List (Nat × String) :=
  (((Text.lines content).zipIdx 1).map fun (line, n) => (n, Text.trim line)).filter fun l =>
    isEffective l.2

end BrowserSuite
