import BrowserSuite.Browser.Error
import BrowserSuite.Browser.Locator

/-!
# Session calls

Everything that can be asked of a live browser session.  `E` is the type of the
element handles that the session gives out.
-/

namespace BrowserSuite

/-- A frame to switch into: by its position among the frames of the current
context, by its name, or by its element. -/
inductive FrameTarget (E : Type) where
  | index (n : Nat)
  | name (text : String)
  | element (e : E)
  deriving DecidableEq, Repr

/-- A step of a pointer and keyboard gesture. -/
inductive Gesture (E : Type) where
  | moveTo (e : E)
  | click
  | keys (text : String)
  deriving DecidableEq, Repr

/-- A call on a session. -/
inductive Call (E : Type) where
  | navigate (url : String)
  | find (locator : Locator)
  | findAll (locator : Locator)
  | click (e : E)
  | clear (e : E)
  | sendKeys (e : E) (text : String)
  | readText (e : E)
  | readAttribute (e : E) (name : String)
  | selectByText (e : E) (label : String)
  | selectByValue (e : E) (value : String)
  | frames
  | switchToFrame (target : FrameTarget E)
  | switchToDefault
  | setWindowSize (width height : Nat)
  | performGestures (steps : List (Gesture E))
  | quit
  deriving DecidableEq, Repr

/-- What a call that succeeds is answered with. -/
abbrev Call.Reply {E : Type} : Call E → Type
  | .find _ => E
  | .findAll _ | .frames => List E
  | .readText _ => String
  | .readAttribute _ _ => Option String
  | _ => Unit

end BrowserSuite
