import BrowserSuite.WebDriver.Exchange

/-!
# Elements

A driver names an element by an identifier of its own, which it sends and
expects as the one member of an object.
-/

namespace BrowserSuite.WebDriver

/-- An element of the page, as the driver names it. -/
structure Element where
  id : String
  deriving DecidableEq, Repr, Inhabited

/-- The name of the member that marks an object as an element. -/
def elementMember : String := "element-6066-11e4-a52e-4f735466cecf"

/-- An element as it is sent. -/
def Element.value (e : Element) : Json.Value := .ofMembers [(elementMember, .string e.id)]

/-- The element that a driver sent. -/
def Element.ofValue (value : Json.Value) : Except BrowserError Element :=
  match value.get? elementMember with
  | some (.string id) => .ok ⟨id⟩
  | _ => .error (unexpected value)

/-- The elements that a driver sent. -/
def Element.listOfValue : Json.Value → Except BrowserError (List Element)
  | .array items => items.mapM Element.ofValue
  | value => .error (unexpected value)

end BrowserSuite.WebDriver
