import BrowserSuite.Browser.Call
import BrowserSuite.Ending

/-!
# The scripted browser

A browser that exists only as a description: a tree of frames, the elements
that live in them, and a list of rules that disturb chosen calls.  Sessions
opened on it all drive the same pages, so it can stand in for a real browser
under one worker or under many.

A call happens in two parts.  `startCall` counts it and finds the rule that applies,
if any; then the rule's delay passes; `endCall` carries out the rest: the
rule's panic or error if it has one, and otherwise the call itself.  Other
sessions may come in between the two.
-/

namespace BrowserSuite

/-- The frame that holds the document. -/
def rootFrame : Nat := 0

/-- An element handle: the element's key and the frame it was found in, or for
the element of a frame, the frame itself. -/
structure Handle where
  key : String
  node : Nat
  deriving DecidableEq, Repr, Inhabited

namespace Scripted

/-- A frame, its parent and the frames directly inside it, in document order. -/
structure Frame where
  name : String
  parent : Option Nat
  children : List Nat
  deriving DecidableEq, Repr, Inhabited

/-- An element: the frame it lives in, what it shows, and how it behaves when it
is looked up.  An option has a value and a label. -/
structure Element where
  key : String
  node : Nat
  text : String
  attributes : List (String × String)
  options : List (String × String)
  appearAfter : Nat
  sessionLost : Bool
  lookups : Nat
  deriving DecidableEq, Repr, Inhabited

/-- A disturbance of the calls of one kind, or of those among them with one key:
the first `skip` are let through, the next `times` are disturbed. -/
structure Rule where
  op : String
  key : Option String
  skip : Nat
  times : Option Nat
  delay : Nat
  cancels : Bool
  panic : Option Panic
  error : Option BrowserError
  deriving DecidableEq, Repr, Inhabited

end Scripted

/-- A browser that follows a script, with everything that happened to it. -/
structure Scripted where
  frames : List Scripted.Frame
  elements : List Scripted.Element
  matching : List (String × List String)
  rules : List Scripted.Rule
  refuses : Bool
  panicsOnQuit : Bool
  /-- The frames that lead to the current one, innermost first. -/
  context : List Nat
  counts : List (String × Nat)
  calls : List String
  opened : Nat
  quits : Nat
  deriving DecidableEq, Repr, Inhabited

namespace Scripted

/-- A browser that shows an empty document. -/
def blank : Scripted where
  frames := [⟨"root", none, []⟩]
  elements := []
  matching := []
  rules := []
  refuses := false
  panicsOnQuit := false
  context := []
  counts := []
  calls := []
  opened := 0
  quits := 0

/-! ## Setting the scene -/

/-- Adds a frame inside another one, after the frames already there. -/
def addFrame (b : Scripted) (parent : Nat) (name : String) : Scripted :=
  let frames := b.frames ++ [⟨name, some parent, []⟩]
  let id := b.frames.length
  { b with frames := frames.modify parent fun f => { f with children := f.children ++ [id] } }

/-- Adds an element; an element with the same key is replaced. -/
def addElement (b : Scripted) (e : Element) : Scripted :=
  { b with elements := b.elements.filter (fun old => old.key != e.key) ++ [e] }

/-! ## What can be seen -/

/-- The element of a key. -/
def element? (b : Scripted) (key : String) : Option Element :=
  b.elements.find? fun e => e.key == key

/-- How often the element of a key has been looked up. -/
def lookupsOf (b : Scripted) (key : String) : Nat :=
  match b.element? key with
  | some e => e.lookups
  | none => 0

/-- The frame that a session sees. -/
def currentFrame (b : Scripted) : Nat := b.context.headD rootFrame

/-- The name of a frame. -/
def frameName (b : Scripted) (id : Nat) : String :=
  match b.frames[id]? with
  | some f => f.name
  | none => ""

/-- The frames directly inside a frame. -/
def childrenOf (b : Scripted) (id : Nat) : List Nat :=
  match b.frames[id]? with
  | some f => f.children
  | none => []

/-- The names of the frames that lead to the current one, outermost first. -/
def contextNames (b : Scripted) : List String := b.context.reverse.map b.frameName

/-- The frames inside the document: no chain of nested frames is longer. -/
def frameBound (b : Scripted) : Nat := b.frames.length

/-! ## Rules -/

/-- The kind of a call in rules and counts. -/
def opOf : Call Handle → String
  | .navigate _ => "navigate"
  | .find _ => "find"
  | .findAll _ => "find_all"
  | .click _ => "click"
  | .clear _ => "clear"
  | .sendKeys _ _ => "keys"
  | .readText _ => "text"
  | .readAttribute _ _ => "attribute"
  | .selectByText _ _ => "select"
  | .selectByValue _ _ => "select_value"
  | .frames => "frames"
  | .switchToFrame _ => "switch"
  | .switchToDefault => "default"
  | .setWindowSize _ _ => "window"
  | .performGestures _ => "perform"
  | .quit => "quit"

/-- A frame target in rules. -/
def targetKey : FrameTarget Handle → String
  | .index n => s!"index:{n}"
  | .name text => s!"name:{text}"
  | .element e => e.key

/-- The key of a call in rules. -/
def keyOf : Call Handle → String
  | .navigate url => url
  | .find l | .findAll l => l.text
  | .click e | .clear e | .sendKeys e _ | .readText e | .readAttribute e _ | .selectByText e _
  | .selectByValue e _ => e.key
  | .switchToFrame target => targetKey target
  | .setWindowSize width height => s!"{width}x{height}"
  | .frames | .switchToDefault | .performGestures _ | .quit => ""

/-- Whether a rule is about a call, whatever it has been used for already. -/
def Rule.concerns (r : Rule) (op key : String) : Bool :=
  r.op == op && (r.key == none || r.key == some key) && r.times != some 0

/-- The rule that applies to a call, and the rules afterwards. -/
def takeRule (op key : String) : List Rule → Option Rule × List Rule
  | [] => (none, [])
  | r :: rest =>
    if r.concerns op key then
      if 0 < r.skip then
        let (found, rest) := takeRule op key rest
        (found, { r with skip := r.skip - 1 } :: rest)
      else (some r, { r with times := r.times.map (· - 1) } :: rest)
    else
      let (found, rest) := takeRule op key rest
      (found, r :: rest)

/-- Adds one to the count of a kind of call. -/
def countCall (op : String) : List (String × Nat) → List (String × Nat)
  | [] => [(op, 1)]
  | (o, n) :: rest => if o = op then (o, n + 1) :: rest else (o, n) :: countCall op rest

/-- Counts a call and finds the rule that applies to it. -/
def startCall (b : Scripted) (op key : String) : Option Rule × Scripted :=
  let (rule, rules) := takeRule op key b.rules
  (rule, { b with rules := rules, counts := countCall op b.counts })

/-! ## Calls -/

/-- Writes down that a call took effect. -/
def record (b : Scripted) (call : String) : Scripted := { b with calls := b.calls ++ [call] }

/-- Counts a look-up of an element. -/
def countLookUp (b : Scripted) (key : String) : Scripted :=
  { b with elements := b.elements.map fun e =>
      if e.key == key then { e with lookups := e.lookups + 1 } else e }

/-- Looks an element up in the current frame. -/
def lookUp (b : Scripted) (key : String) : Except BrowserError Handle × Scripted :=
  match b.element? key with
  | none => (.error (.noSuchElement key), b)
  | some e =>
    let b := b.countLookUp key
    if e.sessionLost then (.error (.session "browser crashed"), b)
    else if e.node ≠ b.currentFrame ∨ e.lookups < e.appearAfter then
      (.error (.noSuchElement key), b)
    else (.ok ⟨key, b.currentFrame⟩, b)

/-- The frame that a target means, among the frames of the current one. -/
def targetFrame? (b : Scripted) : FrameTarget Handle → Option Nat
  | .index n => (b.childrenOf b.currentFrame)[n]?
  | .name text => (b.childrenOf b.currentFrame).find? fun id => b.frameName id == text
  | .element e =>
    match b.frames[e.node]? with
    | some f => if f.parent = some b.currentFrame then some e.node else none
    | none => none

/-- A gesture step as it is written down. -/
def stepText : Gesture Handle → String
  | .moveTo e => s!"move {e.key}"
  | .click => "click"
  | .keys text => s!"keys {text}"

/-- Answers with an element, or says that its handle is stale. -/
def withElement {α : Type} (b : Scripted) (h : Handle)
    (f : Element → Ending BrowserError α × Scripted) : Ending BrowserError α × Scripted :=
  match b.element? h.key with
  | some e => f e
  | none => (.failed (.staleElement h.key), b)

/-- Carries out a call that no rule disturbs. -/
def perform (b : Scripted) : (c : Call Handle) → Ending BrowserError c.Reply × Scripted
  | .navigate url => (.value (), b.record s!"navigate {url}")
  | .find l =>
    match b.lookUp l.text with
    | (.ok h, b) => (.value h, b)
    | (.error e, b) => (.failed e, b)
  | .findAll l =>
    match b.matching.lookup l.text with
    | some keys => (.value (keys.map fun key => ⟨key, b.currentFrame⟩), b)
    | none =>
      match b.lookUp l.text with
      | (.ok h, b) => (.value [h], b)
      | (.error (.noSuchElement _), b) => (.value [], b)
      | (.error e, b) => (.failed e, b)
  | .click h => b.withElement h fun _ => (.value (), b.record s!"click {h.key}")
  | .clear h => b.withElement h fun _ => (.value (), b.record s!"clear {h.key}")
  | .sendKeys h text => b.withElement h fun _ => (.value (), b.record s!"keys {h.key} {text}")
  | .readText h => b.withElement h fun e => (.value e.text, b)
  | .readAttribute h name => b.withElement h fun e => (.value (e.attributes.lookup name), b)
  | .selectByText h label => b.withElement h fun e =>
    if e.options.any fun o => o.2 == label then (.value (), b.record s!"select {h.key} {label}")
    else (.failed (.noSuchElement s!"option {label}"), b)
  | .selectByValue h value => b.withElement h fun e =>
    if e.options.any fun o => o.1 == value then
      (.value (), b.record s!"select_value {h.key} {value}")
    else (.failed (.noSuchElement s!"option value {value}"), b)
  | .frames =>
    (.value ((b.childrenOf b.currentFrame).map fun id => ⟨"frame:" ++ b.frameName id, id⟩), b)
  | .switchToFrame target =>
    match b.targetFrame? target with
    | some id =>
      (.value (), { b with context := id :: b.context }.record s!"switch {b.frameName id}")
    | none => (.failed (.noSuchFrame (targetKey target)), b)
  | .switchToDefault => (.value (), { b with context := [] }.record "switch default")
  | .setWindowSize width height => (.value (), b.record s!"window {width}x{height}")
  | .performGestures steps =>
    (.value (), b.record ("perform [" ++ ", ".intercalate (steps.map stepText) ++ "]"))
  | .quit =>
    let b := { b with quits := b.quits + 1 }
    if b.panicsOnQuit then (.panicked (.text "driver process vanished"), b) else (.value (), b)

/-- Opens a session. -/
def openSession (b : Scripted) : Ending BrowserError Unit × Scripted :=
  if b.refuses then (.failed (.session "no driver"), b)
  else (.value (), { b with opened := b.opened + 1 })

/-- What a rule makes of a call: its panic, its error, or the call itself. -/
def endCall {α : Type} (rule : Option Rule) (b : Scripted)
    (proceed : Scripted → Ending BrowserError α × Scripted) : Ending BrowserError α × Scripted :=
  match rule with
  | none => proceed b
  | some r =>
    match r.panic, r.error with
    | some p, _ => (.panicked p, b)
    | none, some e => (.failed e, b)
    | none, none => proceed b

end Scripted

end BrowserSuite
