import BrowserSuite.Browser.Call
import BrowserSuite.WebDriver.Element

/-!
# Gesture tracks

A gesture is sent as two tracks that run side by side, one of the pointer and
one of the keyboard.  Both should have one entry for every tick; while one of
them acts, the other pauses.  They are laid out by going on with either of them,
entry by entry: nothing in their form keeps them in step.
-/

namespace BrowserSuite.WebDriver

/-- An object with a type. -/
def typed (kind : String) (members : Json.Members) : Json.Value :=
  .ofMembers (("type", .string kind) :: members)

/-- An entry that does nothing for one tick. -/
def pause : Json.Value := typed "pause" [("duration", .int 0)]

/-- The entries of the two tracks, as far as they are laid out. -/
structure Tracks where
  pointer : List Json.Value
  keyboard : List Json.Value

namespace Tracks

/-- Two tracks without entries. -/
def empty : Tracks := ⟨[], []⟩

/-- Goes on with an entry of the pointer track. -/
def thenPointer (t : Tracks) (entry : Json.Value) : Tracks :=
  { t with pointer := t.pointer ++ [entry] }

/-- Goes on with an entry of the keyboard track. -/
def thenKeyboard (t : Tracks) (entry : Json.Value) : Tracks :=
  { t with keyboard := t.keyboard ++ [entry] }

/-- Lays out one character of a text.  Its key goes down and comes up again. -/
def layOutChar (t : Tracks) (c : Char) : Tracks :=
  let key := [("value", Json.Value.string (String.singleton c))]
  let t := (t.thenKeyboard (typed "keyDown" key)).thenKeyboard (typed "keyUp" key)
  (t.thenPointer pause).thenPointer pause

/-- Lays out one step. -/
def layOutStep (t : Tracks) : Gesture Element → Tracks
  | .moveTo e =>
    let t := t.thenPointer (typed "pointerMove" [("origin", e.value), ("x", .int 0), ("y", .int 0)])
    t.thenKeyboard pause
  | .click =>
    let t := t.thenPointer (typed "pointerDown" [("button", .int 0)])
    let t := t.thenPointer (typed "pointerUp" [("button", .int 0)])
    (t.thenKeyboard pause).thenKeyboard pause
  | .keys text => text.toList.foldl layOutChar t

/-- Lays out a gesture, one step after another. -/
def layOut (steps : List (Gesture Element)) : Tracks := steps.foldl layOutStep empty

end Tracks

/-- The two tracks of a gesture. -/
def tracks (steps : List (Gesture Element)) : Json.Value :=
  let laidOut := Tracks.layOut steps
  let mouse := typed "pointer" [
    ("id", .string "mouse"),
    ("parameters", .ofMembers [("pointerType", .string "mouse")]),
    ("actions", .array laidOut.pointer)]
  let keyboard := typed "key" [
    ("id", .string "keyboard"),
    ("actions", .array laidOut.keyboard)]
  .ofMembers [("actions", .array [mouse, keyboard])]

end BrowserSuite.WebDriver
