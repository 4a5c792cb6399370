import BrowserSuite.Browser.Keys
import BrowserSuite.Engine.Chain
import BrowserSuite.Engine.Clock
import BrowserSuite.Engine.FrameSearch
import BrowserSuite.Engine.Wait
import BrowserSuite.UiMap.Instruction

/-!
# Running a page

A page is run action by action, up to the first one that fails.  Every action
is checked before anything is done for it; in a debug run it is logged first.
After every action the action delay passes, and before the last action the page
delay as well, to let a page settle that the actions so far have opened.

The gesture chain belongs to one run of one page: it starts without a chain, and
a chain that is still pending at its end is dropped.

What an instruction writes to the store or the log it writes last, after
everything that can fail.
-/

namespace BrowserSuite

/-- The pace of a page, in milliseconds, and how long its look-ups wait. -/
structure PageSettings where
  actionDelay : Nat
  pageDelay : Nat
  wait : WaitPolicy
  deriving DecidableEq, Repr, Inhabited

/-- What stands for the tier in a base URL. -/
def tierPlaceholder : String := "%(tier)"

/-- A base URL in which the tier has been filled in. -/
def resolveBaseUrl (url tier : String) : String := Text.replace tierPlaceholder tier url

/-- An identifier of nine digits that is not all zero, in groups of three, two
and four. -/
def socialSecurityNumber (draw : Nat) : String :=
  let digits := (toString (draw + 1)).toList
  let digits := List.replicate (9 - digits.length) '0' ++ digits
  String.ofList (digits.take 3 ++ '-' :: (digits.drop 3).take 2 ++ '-' :: digits.drop 5)

namespace PageRun

variable {E : Type}

/-- The locator of two parameters. -/
def locator (kind target : String) : Except RunError Locator :=
  match By.ofName? kind with
  | some kind => .ok ⟨kind, target⟩
  | none => .error (.invalidParameter (.locatorKind kind))

/-- The key codes of a parameter. -/
def keyCodes (names : String) : Except RunError String :=
  match Keys.ofList names with
  | .ok codes => .ok codes
  | .error name => .error (.invalidParameter (.key name))

/-- A width or height. -/
def dimension (text : String) : Except RunError Nat :=
  match Number.unsigned? (Nat.pow 2 32) text with
  | some n => .ok n
  | none => .error (.invalidParameter (.dimension text))

/-- The pause of a parameter: a number of milliseconds that is finite and not
negative. -/
def pause (text : String) : Except RunError Number.Binary64 :=
  match Number.double? text with
  | some (.finite x) =>
    if x.negative && !x.isZero then .error (.invalidParameter (.delay text)) else .ok x
  | _ => .error (.invalidParameter (.delay text))

/-- The frame of a parameter: a position if it is a 16-bit number, else a name. -/
def frameTarget (frame : String) : FrameTarget E :=
  match Number.unsigned? (Nat.pow 2 16) frame with
  | some n => .index n
  | none => .name frame

/-- A value that may be missing because a parameter is wrong. -/
def orStop {α : Type} : Except RunError α → Task E RunError α
  | .ok a => pure a
  | .error e => Task.fail e

/-- The text of a variable; a variable that is not set ends the page. -/
def variableText (key : String) : Task E RunError String := do
  let store ← Task.readStore
  match store.text? key with
  | some text => pure text
  | none => Task.fail (.unknownVariable key)

/-- Waits for an element to be there. -/
def awaitElement (wait : WaitPolicy) (kind target : String) : Task E RunError E := do
  let l ← orStop (locator kind target)
  wait.wait (Task.call (.find l)) s!"cannot find element: {target}"

/-- Waits for an element to be there and then for a click on it to succeed. -/
def awaitClick (wait : WaitPolicy) (kind target : String) : Task E RunError E := do
  let element ← awaitElement wait kind target
  wait.wait (Task.call (.click element)) s!"cannot click element: {target}"
  pure element

/-- Waits for an element and clears it. -/
def clearElement (wait : WaitPolicy) (kind target : String) : Task E RunError Unit := do
  let element ← awaitElement wait kind target
  Task.callOrStop (.clear element)

/-- Clicks an element and types a text into it. -/
def typeInto (wait : WaitPolicy) (kind target text : String) : Task E RunError Unit := do
  let element ← awaitClick wait kind target
  Task.callOrStop (.sendKeys element text)

/-- Clicks some elements, one after the other.  Only a lost session counts as a
failure. -/
def clickEach : List E → Task E RunError Unit
  | [] => pure ()
  | element :: rest => do
    match ← (Task.call (.click element)).attempt with
    | .error (.session detail) => Task.fail (.session detail)
    | _ => clickEach rest

/-- Searches all frames for an element until it is found, and enters its frame. -/
def enterFrameOf (wait : WaitPolicy) (kind target : String) : Task E RunError Unit := do
  let l ← orStop (locator kind target)
  let search : Task E BrowserError (FrameMatch E) := do
    match ← FrameSearch.find l with
    | some found => pure found
    | none => Task.fail (.noSuchElement l.text)
  let found ← wait.wait search s!"cannot find frame for element: {target}"
  (FrameSearch.enter found.path).mapError RunError.ofBrowser

/-- Sets the base of all addresses.  The tier in it is filled in from the store. -/
def setBase (url : String) : Task E RunError Unit :=
  if Text.contains url tierPlaceholder then do
    let tier ← variableText "tier"
    Task.setVariable "base" (.string (resolveBaseUrl url tier))
  else Task.setVariable "base" (.string url)

/-- Lets the pause of a parameter pass. -/
def pauseFor (text : String) : Task E RunError Unit := do
  let ms ← orStop (pause text)
  match Clock.pauseOf ms with
  | some pause => Task.sleep pause
  | none => Task.panicWith Clock.pauseTooLong

/-- The chain that has been started. -/
def started : Option (Chain E) → Task E RunError (Chain E)
  | some chain => pure chain
  | none => Task.fail .chainNotStarted

/-- Executes an instruction.  The pending chain goes in and the one that is left
comes out. -/
def execute (wait : WaitPolicy) (chain : Option (Chain E)) :
    Instruction → Task E RunError (Option (Chain E))
  | .gestureNew => pure (some Chain.empty)
  | .gestureMove kind target => do
    let element ← awaitElement wait kind target
    let chain ← started chain
    pure (some (chain.add (.moveTo element)))
  | .gestureClick => do
    let chain ← started chain
    pure (some (chain.add .click))
  | .gestureKeys names => do
    let codes ← orStop (keyCodes names)
    let chain ← started chain
    pure (some (chain.add (.keys codes)))
  | .gesturePerform => do
    let chain ← started chain
    chain.perform.mapError RunError.ofBrowser
    pure none
  | .clear kind target => do
    clearElement wait kind target
    pure chain
  | .clearType kind target text => do
    clearElement wait kind target
    typeInto wait kind target text
    pure chain
  | .click kind target => do
    let _ ← awaitClick wait kind target
    pure chain
  | .clickAll kind target => do
    let l ← orStop (locator kind target)
    let elements ← Task.callOrStop (.findAll l)
    clickEach elements
    pure chain
  | .keys kind target names => do
    let codes ← orStop (keyCodes names)
    typeInto wait kind target codes
    pure chain
  | .selectByText kind target label => do
    let element ← awaitElement wait kind target
    wait.wait (Task.call (.selectByText element label)) s!"cannot select option: {label}"
    pure chain
  | .selectByValue kind target value => do
    let element ← awaitElement wait kind target
    wait.wait (Task.call (.selectByValue element value)) s!"cannot select value: {value}"
    pure chain
  | .typeText kind target text => do
    typeInto wait kind target text
    pure chain
  | .typeVariable kind target key => do
    let text ← variableText key
    typeInto wait kind target text
    pure chain
  | .baseUrl url => do
    setBase url
    pure chain
  | .openPage path => do
    let base ← variableText "base"
    Task.callOrStop (.navigate (base ++ path))
    pure chain
  | .findFrame kind target => do
    enterFrameOf wait kind target
    pure chain
  | .switchToDefault => do
    Task.callOrStop .switchToDefault
    pure chain
  | .switchToFrame frame => do
    wait.wait (Task.call (.switchToFrame (frameTarget frame))) s!"cannot find frame: {frame}"
    pure chain
  | .setWindowSize width height => do
    let width ← orStop (dimension width)
    let height ← orStop (dimension height)
    Task.callOrStop (.setWindowSize width height)
    pure chain
  | .setVariable key value => do
    Task.setVariable key (.string value)
    pure chain
  | .randomSsn key => do
    let n ← Task.draw
    Task.setVariable key (.string (socialSecurityNumber n))
    pure chain
  | .storeAttribute kind target name key => do
    let element ← awaitElement wait kind target
    let value ← Task.callOrStop (.readAttribute element name)
    Task.setVariable key (match value with
      | some text => .string text
      | none => .null)
    pure chain
  | .storeText kind target key => do
    let element ← awaitElement wait kind target
    let text ← Task.callOrStop (.readText element)
    Task.setVariable key (.string text)
    pure chain
  | .log message => do
    Task.log message
    pure chain
  | .logVariable key => do
    let text ← variableText key
    Task.log text
    pure chain
  | .delay ms => do
    pauseFor ms
    pure chain
  | .verifyText kind target expected => do
    let element ← awaitElement wait kind target
    let text ← Task.callOrStop (.readText element)
    if Text.contains text expected then pure chain
    else Task.fail (.verification expected)

/-- In a debug run the log shows an action before it is checked. -/
def announce (action : Action) : Task E RunError Unit := do
  let store ← Task.readStore
  if store.flag "debug" then Task.log action.describe

/-- Runs one action, without the delays that follow it. -/
def runAction (wait : WaitPolicy) (chain : Option (Chain E)) (action : Action) :
    Task E RunError (Option (Chain E)) := do
  if ← Task.isCancelled then Task.fail .cancelled
  else do
    announce action
    let instruction ← orStop action.instruction
    execute wait chain instruction

/-- Lets the delays after an action pass that has `left` actions behind it. -/
def settle (settings : PageSettings) (left : Nat) : Task E RunError Unit := do
  Task.sleep settings.actionDelay
  if left = 1 then Task.sleep settings.pageDelay

/-- Runs the remaining actions of a page. -/
def runActions (settings : PageSettings) (chain : Option (Chain E)) :
    List Action → Task E RunError Unit
  | [] => pure ()
  | action :: rest => do
    let chain ← runAction settings.wait chain action
    settle settings rest.length
    runActions settings chain rest

end PageRun

/-- Runs a page. -/
def Page.run {E : Type} (settings : PageSettings) (page : Page) : Task E RunError Unit :=
  PageRun.runActions settings none page.actions

end BrowserSuite
