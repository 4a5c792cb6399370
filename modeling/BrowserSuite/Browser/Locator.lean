import BrowserSuite.Text.Lower

/-!
# Locators

How an element is located: a way of looking and the expression looked for.  The
way is written without regard to case.
-/

namespace BrowserSuite

/-- A way to locate elements. -/
inductive By where
  | xpath
  | id
  | css
  | name
  | linkText
  deriving DecidableEq, Repr, Inhabited

namespace By

/-- The name under which a way is written. -/
def label : By → String
  | xpath => "xpath"
  | id => "id"
  | css => "css"
  | name => "name"
  | linkText => "link_text"

/-- The way of a name; `link` is short for `link_text`. -/
def ofName? (text : String) : Option By :=
  match Text.lower text with
  | "xpath" => some xpath
  | "id" => some id
  | "css" => some css
  | "name" => some name
  | "link_text" | "link" => some linkText
  | _ => none

end By

/-- A way to look for elements, and what to look for. -/
structure Locator where
  kind : By
  target : String
  deriving DecidableEq, Repr, Inhabited

/-- A locator as one text. -/
def Locator.text (l : Locator) : String := s!"{l.kind.label}={l.target}"

end BrowserSuite
