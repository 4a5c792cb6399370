/-!
# Browser errors

What a browser session can answer instead of a result.  Four of the causes are
transient: the page may still be settling, so the call is worth another
attempt.  A lost session ends the worker that owns it.
-/

namespace BrowserSuite

/-- Why a session call failed. -/
inductive BrowserError where
  | noSuchElement (detail : String)
  | staleElement (detail : String)
  | noSuchFrame (detail : String)
  | notInteractable (detail : String)
  | session (detail : String)
  | driver (detail : String)
  deriving DecidableEq, Repr, Inhabited

namespace BrowserError

/-- Whether the same call may succeed a little later. -/
def isTransient : BrowserError → Bool
  | noSuchElement _ | staleElement _ | noSuchFrame _ | notInteractable _ => true
  | session _ | driver _ => false

/-- What a cause is called, followed by its detail. -/
def message : BrowserError → String
  | noSuchElement d => s!"No such element: {d}"
  | staleElement d => s!"Stale element reference: {d}"
  | noSuchFrame d => s!"No such frame: {d}"
  | notInteractable d => s!"Element not interactable: {d}"
  | session d => s!"Browser session lost: {d}"
  | driver d => s!"WebDriver error: {d}"

end BrowserError

end BrowserSuite
