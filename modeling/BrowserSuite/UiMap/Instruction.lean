import BrowserSuite.Engine.Error
import BrowserSuite.UiMap.Suite

/-!
# Instructions

An instruction is a command together with the parameters that it needs, each
under its own name.  An action is checked by making an instruction of it: that
fails exactly if the action names no command or has too few parameters, and
what is left over is dropped.  Whoever executes an instruction finds every
parameter in its place.
-/

namespace BrowserSuite

/-- A command with its parameters.  A way to locate an element is still the text
that was written. -/
inductive Instruction where
  | gestureNew
  | gestureMove (kind target : String)
  | gestureClick
  | gestureKeys (keys : String)
  | gesturePerform
  | clear (kind target : String)
  | clearType (kind target text : String)
  | click (kind target : String)
  | clickAll (kind target : String)
  | keys (kind target keys : String)
  | selectByText (kind target label : String)
  | selectByValue (kind target value : String)
  | typeText (kind target text : String)
  | typeVariable (kind target key : String)
  | baseUrl (url : String)
  | openPage (path : String)
  | findFrame (kind target : String)
  | switchToDefault
  | switchToFrame (frame : String)
  | setWindowSize (width height : String)
  | setVariable (key value : String)
  | randomSsn (key : String)
  | storeAttribute (kind target name key : String)
  | storeText (kind target key : String)
  | log (message : String)
  | logVariable (key : String)
  | delay (ms : String)
  | verifyText (kind target expected : String)
  deriving DecidableEq, Repr

namespace Instruction

/-- The instruction of a command, which takes its parameters from the front. -/
def ofParams? : Command → List String → Option Instruction
  | .gestureNew, _ => some gestureNew
  | .gestureMove, kind :: target :: _ => some (gestureMove kind target)
  | .gestureClick, _ => some gestureClick
  | .gestureKeys, ks :: _ => some (gestureKeys ks)
  | .gesturePerform, _ => some gesturePerform
  | .clear, kind :: target :: _ => some (clear kind target)
  | .clearType, kind :: target :: text :: _ => some (clearType kind target text)
  | .click, kind :: target :: _ => some (click kind target)
  | .clickAll, kind :: target :: _ => some (clickAll kind target)
  | .keys, kind :: target :: ks :: _ => some (keys kind target ks)
  | .selectByText, kind :: target :: label :: _ => some (selectByText kind target label)
  | .selectByValue, kind :: target :: value :: _ => some (selectByValue kind target value)
  | .typeText, kind :: target :: text :: _ => some (typeText kind target text)
  | .typeVariable, kind :: target :: key :: _ => some (typeVariable kind target key)
  | .baseUrl, url :: _ => some (baseUrl url)
  | .openPage, path :: _ => some (openPage path)
  | .findFrame, kind :: target :: _ => some (findFrame kind target)
  | .switchToDefault, _ => some switchToDefault
  | .switchToFrame, frame :: _ => some (switchToFrame frame)
  | .setWindowSize, width :: height :: _ => some (setWindowSize width height)
  | .setVariable, key :: value :: _ => some (setVariable key value)
  | .randomSsn, key :: _ => some (randomSsn key)
  | .storeAttribute, kind :: target :: name :: key :: _ =>
    some (storeAttribute kind target name key)
  | .storeText, kind :: target :: key :: _ => some (storeText kind target key)
  | .log, message :: _ => some (log message)
  | .logVariable, key :: _ => some (logVariable key)
  | .delay, ms :: _ => some (delay ms)
  | .verifyText, kind :: target :: expected :: _ => some (verifyText kind target expected)
  | _, _ => none

/-- A command finds all its parameters exactly if there are enough of them. -/
theorem isSome_ofParams? (c : Command) (params : List String) :
    (ofParams? c params).isSome = decide (c.arity ≤ params.length) := by
  cases c <;> rcases params with _ | ⟨a, _ | ⟨b, _ | ⟨c, _ | ⟨d, rest⟩⟩⟩⟩ <;>
    simp [ofParams?, Command.arity]

end Instruction

/-- The instruction of an action, or what is wrong with it. -/
def Action.instruction (a : Action) : Except RunError Instruction :=
  match a.command? with
  | none => .error (.unknownCommand a.command a.line)
  | some c =>
    match Instruction.ofParams? c a.params with
    | some i => .ok i
    | none => .error (.arity a.command c.arity a.params.length a.line)

end BrowserSuite
