import BrowserSuite.Engine.Task

/-!
# Searching frames

An element may live in any frame of a page, and a session sees only one frame
at a time.  The search looks into the document and then, in document order,
into every frame and the frames inside it, and it reports the frames that lead
to the element.

Before every sibling the search starts again from the document, so that a frame
that cannot be left does no harm.  A frame that cannot be entered is passed
over.  Whatever happened, the session is sent back to the document at the end.
-/

namespace BrowserSuite

/-- An element and the frames that lead to it, outermost first. -/
structure FrameMatch (E : Type) where
  element : E
  path : List E
  deriving DecidableEq, Repr

namespace FrameSearch

variable {E : Type}

/-- Switches into one frame after the other. -/
def descend : List E → Task E BrowserError Unit
  | [] => pure ()
  | frame :: rest => do
    Task.call (.switchToFrame (.element frame))
    descend rest

/-- Switches from the document down through some frames. -/
def enter (path : List E) : Task E BrowserError Unit := do
  Task.call .switchToDefault
  descend path

/-- Looks into some frames below `path`, one after the other, and uses `look`
for each of them. -/
def visit (look : List E → Task E BrowserError (Option (FrameMatch E))) (path : List E) :
    List E → Task E BrowserError (Option (FrameMatch E))
  | [] => pure none
  | frame :: rest => do
    enter path
    match ← (Task.call (.switchToFrame (.element frame))).attempt with
    | .error e => if e.isTransient then visit look path rest else Task.fail e
    | .ok _ =>
      match ← look (path ++ [frame]) with
      | some found => pure (some found)
      | none => visit look path rest

/-- Looks into the current frame, which `path` leads to, and then into the
frames inside it, down to some depth. -/
def scan (locator : Locator) : Nat → List E → Task E BrowserError (Option (FrameMatch E))
  | 0, _ => pure none
  | depth + 1, path => do
    match ← (Task.call (.find locator)).attempt with
    | .ok element => pure (some ⟨element, path⟩)
    | .error e =>
      if e.isTransient then do
        let children ← Task.call .frames
        visit (scan locator depth) path children
      else Task.fail e

/-- Searches all frames for an element, or gives none if no frame has it. -/
def find (locator : Locator) : Task E BrowserError (Option (FrameMatch E)) := do
  Task.call .switchToDefault
  let bound ← Task.frameBound
  let found ← (scan locator (bound + 1) []).attempt
  let reset ← (Task.call .switchToDefault).attempt
  match found, reset with
  | .error e, _ => Task.fail e
  | .ok _, .error e => Task.fail e
  | .ok m, .ok _ => pure m

end FrameSearch

end BrowserSuite
