import BrowserSuite.Text.Blank
import BrowserSuite.Text.Lower
import BrowserSuite.Text.Split

/-!
# Named keys

The keys that have no character of their own.  A list of their names, separated
by commas, stands for one key code per name; blanks around a name and its case
do not matter.
-/

namespace BrowserSuite.Keys

/-- The names of the keys and the characters that a driver takes for them. -/
def table : List (String × Char) := [
  ("backspace", '\ue003'), ("tab", '\ue004'), ("return", '\ue006'), ("enter", '\ue007'),
  ("escape", '\ue00c'), ("page_up", '\ue00e'), ("page_down", '\ue00f'), ("end", '\ue010'),
  ("home", '\ue011'), ("left", '\ue012'), ("up", '\ue013'), ("right", '\ue014'),
  ("down", '\ue015')]

/-- The code of one name, or the name as it was looked up. -/
def code (name : String) : Except String Char :=
  let name := Text.lower (Text.trim name)
  match table.lookup name with
  | some c => .ok c
  | none => .error name

/-- The codes of several names, or the first name that is unknown. -/
def codes : List String → Except String (List Char)
  | [] => .ok []
  | name :: rest => do
    let c ← code name
    let cs ← codes rest
    pure (c :: cs)

/-- The codes of a list of names separated by commas, or the first name that is
unknown. -/
def ofList (text : String) : Except String String :=
  (codes (Text.split "," text)).map String.ofList

end BrowserSuite.Keys
