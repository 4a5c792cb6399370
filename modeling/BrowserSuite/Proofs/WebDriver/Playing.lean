import BrowserSuite.WebDriver.Tracks
import Mathlib.Algebra.Ring.Nat
import Mathlib.Data.List.Forall2

/-!
# Playing gesture tracks

A driver plays the pointer track and the keyboard track of a gesture side by side, one entry
of each in every tick.  So the two have to stay in step: an entry too few in one of them would
shift all that follows, and keys and clicks would overlap.

`played?` reads the body of a request as a driver does.  What it reads from the tracks of a
gesture are two tracks of the same length, of which exactly one acts in every tick, and the
acts of both, tick by tick, are those of the gesture (`tracks_in_step`).

## Strategy

The tracks are laid out entry by entry, the pointer's apart from the keyboard's.  The invariant
of the loop is that there is one list of ticks of which they are the two sides
(`Tracks.ofTicks`): a step goes on with both by the two sides of its own ticks
(`layOutStep_ofTicks`, for a key step by induction on its text), so a gesture is laid out as
the two sides of all its ticks (`layOut_eq_ofTicks`).

`Carries` says of one tick which act it carries out and that it does nothing else.  The ticks
of a step carry out its acts, one each (`carries_ticksOf`), so the ticks of all steps carry out
the acts of all steps.  All the rest is read off such a list of ticks (`played_of_carries`).
-/

namespace BrowserSuite.WebDriver

/-! ## What a driver reads -/

/-- What a device does in a tick. -/
inductive Act where
  | pause (ms : Int)
  /-- The pointer goes to a point of an element, counted from its middle. -/
  | moveTo (e : Element) (x y : Int)
  | press (button : Int)
  | release (button : Int)
  | keyDown (key : Char)
  | keyUp (key : Char)
  deriving DecidableEq

/-- Whether a device does nothing. -/
def Act.isPause : Act → Bool
  | pause _ => true
  | _ => false

@[simp] theorem Act.isPause_pause (ms : Int) : (pause ms).isPause = true := rfl

section Reading

open Json

/-- The type of an entry, or of a track. -/
def kind? (value : Value) : Option String :=
  match value.get? "type" with
  | some (.string kind) => some kind
  | _ => none

/-- A member that is a whole number. -/
def number? (name : String) (value : Value) : Option Int :=
  match value.get? name with
  | some (.int n) => some n
  | _ => none

/-- A member that is an array. -/
def items? (name : String) (value : Value) : Option (List Value) :=
  match value.get? name with
  | some (.array items) => some items
  | _ => none

/-- The key of an entry, which is one character. -/
def key? (entry : Value) : Option Char :=
  match entry.get? "value" with
  | some (.string text) =>
    match text.toList with
    | [c] => some c
    | _ => none
  | _ => none

/-- What an entry of a pointer track does. -/
def pointerAct? (entry : Value) : Option Act :=
  match kind? entry with
  | some "pause" => (number? "duration" entry).map .pause
  | some "pointerMove" => do
    let origin ← entry.get? "origin"
    let e ← (Element.ofValue origin).toOption
    pure (.moveTo e (← number? "x" entry) (← number? "y" entry))
  | some "pointerDown" => (number? "button" entry).map .press
  | some "pointerUp" => (number? "button" entry).map .release
  | _ => none

/-- What an entry of a keyboard track does. -/
def keyAct? (entry : Value) : Option Act :=
  match kind? entry with
  | some "pause" => (number? "duration" entry).map .pause
  | some "keyDown" => (key? entry).map .keyDown
  | some "keyUp" => (key? entry).map .keyUp
  | _ => none

/-- The acts of a track of some type. -/
def trackOf? (kind : String) (act? : Value → Option Act) (track : Value) : Option (List Act) :=
  if kind? track = some kind then (items? "actions" track).bind (List.mapM act?) else none

/-- The pointer track and the keyboard track of a request that has these and no others. -/
def played? (body : Value) : Option (List Act × List Act) := do
  match ← items? "actions" body with
  | [mouse, keyboard] =>
    pure (← trackOf? "pointer" pointerAct? mouse, ← trackOf? "key" keyAct? keyboard)
  | _ => none

end Reading

/-! ## What a gesture means -/

/-- The button that clicks. -/
def leftButton : Int := 0

/-- What is done for a step, in order. -/
def actsOf : Gesture Element → List Act
  | .moveTo e => [.moveTo e 0 0]
  | .click => [.press leftButton, .release leftButton]
  | .keys text => text.toList.flatMap fun c => [.keyDown c, .keyUp c]

/-- How many ticks a step takes. -/
def width : Gesture Element → Nat
  | .moveTo _ => 1
  | .click => 2
  | .keys text => 2 * text.length

theorem length_actsOf (step : Gesture Element) : (actsOf step).length = width step := by
  cases step with
  | moveTo e => rfl
  | click => rfl
  | keys text =>
      have hsum : (text.toList.map fun _ => 2).sum = text.length * 2 := by
        simp [String.length]
      calc (actsOf (.keys text)).length
          = (text.toList.map fun _ => 2).sum := List.length_flatMap ..
        _ = 2 * text.length := by rw [hsum, Nat.mul_comm]

/-! ## Ticks -/

/-- What the pointer and the keyboard do in one tick. -/
structure Tick where
  pointer : Json.Value
  keyboard : Json.Value

/-- The ticks of a character. -/
def ticksOfChar (c : Char) : List Tick :=
  let key := [("value", Json.Value.string (String.singleton c))]
  [⟨pause, typed "keyDown" key⟩, ⟨pause, typed "keyUp" key⟩]

/-- The ticks of a step. -/
def ticksOf : Gesture Element → List Tick
  | .moveTo e =>
    [⟨typed "pointerMove" [("origin", e.value), ("x", .int 0), ("y", .int 0)], pause⟩]
  | .click => [⟨typed "pointerDown" [("button", .int 0)], pause⟩,
      ⟨typed "pointerUp" [("button", .int 0)], pause⟩]
  | .keys text => text.toList.flatMap ticksOfChar

namespace Tracks

/-- The two sides of some ticks. -/
def ofTicks (ticks : List Tick) : Tracks := ⟨ticks.map (·.pointer), ticks.map (·.keyboard)⟩

theorem layOutChar_ofTicks (ticks : List Tick) (c : Char) :
    (ofTicks ticks).layOutChar c = ofTicks (ticks ++ ticksOfChar c) := by
  simp [layOutChar, thenPointer, thenKeyboard, ofTicks, ticksOfChar]

/-- A step goes on with both tracks by the same number of entries, those of its ticks. -/
theorem layOutStep_ofTicks (ticks : List Tick) (step : Gesture Element) :
    (ofTicks ticks).layOutStep step = ofTicks (ticks ++ ticksOf step) := by
  cases step with
  | moveTo e => simp [layOutStep, thenPointer, thenKeyboard, ofTicks, ticksOf]
  | click => simp [layOutStep, thenPointer, thenKeyboard, ofTicks, ticksOf]
  | keys text =>
      simp only [layOutStep, ticksOf]
      induction text.toList generalizing ticks with
      | nil => simp
      | cons c rest ih =>
          rw [List.foldl_cons, layOutChar_ofTicks, ih, List.flatMap_cons, List.append_assoc]

/-- The tracks of a gesture are the two sides of the ticks of its steps. -/
theorem layOut_eq_ofTicks (steps : List (Gesture Element)) :
    layOut steps = ofTicks (steps.flatMap ticksOf) := by
  -- the invariant: what is laid out are the two sides of the ticks so far
  have hinv : ∀ ticks, steps.foldl layOutStep (ofTicks ticks) =
      ofTicks (ticks ++ steps.flatMap ticksOf) := by
    induction steps with
    | nil => simp
    | cons step rest ih =>
        intro ticks
        rw [List.foldl_cons, layOutStep_ofTicks, ih, List.flatMap_cons, List.append_assoc]
  exact hinv []

end Tracks

/-- In a tick one device does something and the other one does nothing, for no time. -/
inductive Carries : Tick → Act → Prop
  | pointer {t : Tick} {a : Act} (hact : pointerAct? t.pointer = some a)
      (hpause : keyAct? t.keyboard = some (.pause 0)) (ha : a.isPause = false) : Carries t a
  | keyboard {t : Tick} {a : Act} (hpause : pointerAct? t.pointer = some (.pause 0))
      (hact : keyAct? t.keyboard = some a) (ha : a.isPause = false) : Carries t a

/-- The type of an object comes before its other members, so it is what it says unless one of
them is called so too. -/
theorem get?_typed (kind : String) (members : Json.Members) (name : String) :
    (typed kind members).get? name =
      (members.reverse.lookup name).or (if name = "type" then some (.string kind) else none) := by
  unfold typed
  rw [Json.Value.get?_ofMembers, List.reverse_cons, List.lookup_append]
  congr 1
  by_cases h : name = "type" <;> simp [h]

theorem pointerAct?_pause : pointerAct? pause = some (.pause 0) := by
  simp [pointerAct?, kind?, number?, pause, get?_typed, List.lookup_cons]

theorem keyAct?_pause : keyAct? pause = some (.pause 0) := by
  simp [keyAct?, kind?, number?, pause, get?_typed, List.lookup_cons]

/-- A driver knows an element by what it is sent for it. -/
theorem ofValue_value (e : Element) : Element.ofValue e.value = .ok e := by
  simp [Element.ofValue, Element.value, Json.Value.get?_ofMembers]

/-- The ticks of a step carry out its acts. -/
theorem carries_ticksOf (step : Gesture Element) :
    List.Forall₂ Carries (ticksOf step) (actsOf step) := by
  cases step with
  | moveTo e =>
      refine .cons (.pointer ?_ keyAct?_pause rfl) .nil
      simp [pointerAct?, kind?, number?, get?_typed, List.lookup_cons, ofValue_value,
        Except.toOption]
  | click =>
      refine .cons (.pointer ?_ keyAct?_pause rfl) (.cons (.pointer ?_ keyAct?_pause rfl) .nil)
      · simp [pointerAct?, kind?, number?, get?_typed, List.lookup_cons, leftButton]
      · simp [pointerAct?, kind?, number?, get?_typed, List.lookup_cons, leftButton]
  | keys text =>
      simp only [ticksOf, actsOf]
      induction text.toList with
      | nil => exact .nil
      | cons c rest ih =>
          refine .cons (.keyboard pointerAct?_pause ?_ rfl)
            (.cons (.keyboard pointerAct?_pause ?_ rfl) ih)
          · simp [keyAct?, kind?, key?, get?_typed, List.lookup_cons]
          · simp [keyAct?, kind?, key?, get?_typed, List.lookup_cons]

/-- So do the ticks of all steps. -/
theorem carries_steps (steps : List (Gesture Element)) :
    List.Forall₂ Carries (steps.flatMap ticksOf) (steps.flatMap actsOf) := by
  induction steps with
  | nil => exact .nil
  | cons step rest ih => exact List.rel_append (carries_ticksOf step) ih

/-! ## Both tracks -/

/-- What the two devices do in a tick, without pauses. -/
def doneIn (tick : Act × Act) : List Act := [tick.1, tick.2].filter (!·.isPause)

/-- Ticks that carry acts out are read as two tracks in step. -/
theorem played_of_carries {ticks : List Tick} {acts : List Act}
    (h : List.Forall₂ Carries ticks acts) :
    ∃ pointer keyboard, (ticks.map (·.pointer)).mapM pointerAct? = some pointer ∧
      (ticks.map (·.keyboard)).mapM keyAct? = some keyboard ∧
      pointer.length = acts.length ∧ keyboard.length = acts.length ∧
      (∀ tick ∈ pointer.zip keyboard, tick.1.isPause = !tick.2.isPause) ∧
      (pointer.zip keyboard).flatMap doneIn = acts := by
  induction h with
  | nil => exact ⟨[], [], rfl, rfl, rfl, rfl, nofun, rfl⟩
  | @cons t a ticks acts hcarries _ ih =>
      obtain ⟨pointer, keyboard, hpointer, hkeyboard, hplen, hklen, hstep, hdone⟩ := ih
      cases hcarries with
      | pointer hact hpause ha =>
          refine ⟨a :: pointer, .pause 0 :: keyboard, ?_, ?_, ?_, ?_, ?_, ?_⟩
          · simp [hact, hpointer]
          · simp [hpause, hkeyboard]
          · simp [hplen]
          · simp [hklen]
          · exact List.forall_mem_cons.mpr ⟨by simp [ha], hstep⟩
          · simp [doneIn, ha, hdone]
      | keyboard hpause hact ha =>
          refine ⟨.pause 0 :: pointer, a :: keyboard, ?_, ?_, ?_, ?_, ?_, ?_⟩
          · simp [hpause, hpointer]
          · simp [hact, hkeyboard]
          · simp [hplen]
          · simp [hklen]
          · exact List.forall_mem_cons.mpr ⟨by simp [ha], hstep⟩
          · simp [doneIn, ha, hdone]

/-- The tracks of a gesture stay in step.  Both are as long as its steps take, in every tick
exactly one device acts, and the acts of both are those of the steps in their order. -/
theorem tracks_in_step (steps : List (Gesture Element)) :
    ∃ pointer keyboard, played? (tracks steps) = some (pointer, keyboard) ∧
      pointer.length = (steps.map width).sum ∧ keyboard.length = (steps.map width).sum ∧
      (∀ tick ∈ pointer.zip keyboard, tick.1.isPause = !tick.2.isPause) ∧
      (pointer.zip keyboard).flatMap doneIn = steps.flatMap actsOf := by
  have hlength : (steps.flatMap actsOf).length = (steps.map width).sum := by
    calc (steps.flatMap actsOf).length
        = (steps.map fun step => (actsOf step).length).sum := List.length_flatMap ..
      _ = (steps.map width).sum := by simp only [length_actsOf]
  obtain ⟨pointer, keyboard, hpointer, hkeyboard, hplen, hklen, hstep, hdone⟩ :=
    played_of_carries (carries_steps steps)
  refine ⟨pointer, keyboard, ?_, hplen.trans hlength, hklen.trans hlength, hstep, hdone⟩
  simp [played?, tracks, Tracks.layOut_eq_ofTicks, Tracks.ofTicks, trackOf?, items?, kind?,
    get?_typed, Json.Value.get?_ofMembers, List.lookup_cons, hpointer, hkeyboard]

example : played? (tracks [.keys "", .moveTo ⟨"slot"⟩, .keys "é", .click]) =
    some ([.moveTo ⟨"slot"⟩ 0 0, .pause 0, .pause 0, .press 0, .release 0],
      [.pause 0, .keyDown 'é', .keyUp 'é', .pause 0, .pause 0]) := by
  decide +kernel

end BrowserSuite.WebDriver
