import BrowserSuite.Engine.Page

/-!
# What pages are made of

An instruction is a sequence of few kinds of parts: requests that cannot fail, session
calls, and attempts whose failure is handled.  `Part` lists them, with what is allowed
between them.  What holds of each kind of part and goes through `bind` then holds of all
that is done for an action, by induction on `Part`.

`Part` does not say in which order the parts come.  An instruction first looks for elements,
works on the session and reads the store, which is a `Prelude`, and whatever it writes to
the store or to the log it writes behind all that: it is `Orderly`.  `prelude_execute` and
`orderly_execute` take every instruction apart in this way, once, and `part_carryOut` forgets
the order.  They all say with what the task may panic when no call does: a page has no panic
of its own but that of a delay that is too long (`Instruction.OwnPanic`).

A `Probe` is a task on the session alone, and an `Attempt` is a probe or a search of all
frames.  Whoever handles the failure of an attempt may go on after it, except that a lost
session is handed on as it is.
-/

namespace BrowserSuite

/-- With which detail an error says that the session is lost. -/
def BrowserError.loss? : BrowserError → Option String
  | session d => some d
  | _ => none

/-- With which detail a page that stops says that the session is lost. -/
def RunError.loss? : RunError → Option String
  | session d => some d
  | _ => none

@[simp] theorem RunError.loss?_ofBrowser (e : BrowserError) : (ofBrowser e).loss? = e.loss? := by
  cases e <;> rfl

theorem RunError.loss?_of_endsWorker {e : RunError} (h : e.endsWorker = false) :
    e.loss? = none := by
  cases e <;> first | rfl | cases h

/-- A reason to stop that arises while an instruction is executed. -/
def RunError.isOfExecution : RunError → Bool
  | invalidParameter _ | timeout _ | verification _ | unknownVariable _ | chainNotStarted
  | browser _ => true
  | arity _ _ _ _ | unknownCommand _ _ | session _ | cancelled => false

theorem RunError.endsWorker_of_isOfExecution {e : RunError} (h : e.isOfExecution = true) :
    e.endsWorker = false := by
  cases e <;> first | rfl | cases h

theorem RunError.isOfExecution_ofBrowser {e : BrowserError} (h : e.loss? = none) :
    (ofBrowser e).isOfExecution = true := by
  cases e <;> first | rfl | cases h

/-- What an attempt comes to: a result, a lost session, or an error that may be handled. -/
theorem attempt_cases {α : Type} (r : Except BrowserError α) :
    (∃ a, r = .ok a) ∨ (∃ d, r = .error (.session d)) ∨ ∃ e, r = .error e ∧ e.loss? = none := by
  cases r with
  | ok a => exact .inl ⟨a, rfl⟩
  | error e =>
      cases e with
      | session d => exact .inr (.inl ⟨d, rfl⟩)
      | _ => exact .inr (.inr ⟨_, rfl, rfl⟩)

/-- A request that asks neither the session nor whether the run has been cancelled. -/
def Effect.isPlain {E : Type} : Effect E → Bool
  | .call _ | .isCancelled | .frameBound => false
  | _ => true

/-- A request that changes the worker's store or the log. -/
def Effect.writes {E : Type} : Effect E → Bool
  | .setVariable _ _ | .log _ => true
  | _ => false

/-- An instruction that writes neither to the worker's store nor to the log. -/
def Instruction.isSilent : Instruction → Bool
  | baseUrl _ | setVariable _ _ | randomSsn _ | storeAttribute _ _ _ _ | storeText _ _ _
  | log _ | logVariable _ => false
  | _ => true

/-- The panics that an instruction has of its own: that of a delay that is too long to be
counted. -/
def Instruction.OwnPanic (i : Instruction) (p : Panic) : Prop :=
  p = Clock.pauseTooLong ∧
    ∃ text ms, i = .delay text ∧ PageRun.pause text = .ok ms ∧ Clock.pauseOf ms = none

/-- The panics that an action has of its own. -/
def Action.OwnPanic (action : Action) (p : Panic) : Prop :=
  ∃ i, action.instruction = .ok i ∧ i.OwnPanic p

namespace FrameSearch

/-- A search that fails if no frame has the element. -/
def seek {E : Type} (locator : Locator) : Task E BrowserError (FrameMatch E) := do
  match ← find locator with
  | some found => pure found
  | none => Task.fail (.noSuchElement locator.text)

end FrameSearch

namespace PageRun

variable {E α : Type} {wait : WaitPolicy} {own : Panic → Prop}

/-- A task that asks nothing but the session, and does not end it. -/
inductive Probe : {α : Type} → Task E BrowserError α → Prop
  | pure {α : Type} (a : α) : Probe (pure a)
  | fail {α : Type} (e : BrowserError) (he : e.loss? = none) :
      Probe (Task.fail e : Task E BrowserError α)
  | call (c : Call E) (hc : c ≠ .quit) : Probe (Task.call c)
  | bind {α β : Type} {t : Task E BrowserError α} {f : α → Task E BrowserError β}
      (ht : Probe t) (hf : ∀ a, Probe (f a)) : Probe (t >>= f)
  | trying {α β : Type} {t : Task E BrowserError α}
      {f : Except BrowserError α → Task E BrowserError β} (ht : Probe t)
      (hok : ∀ a, Probe (f (.ok a)))
      (herror : ∀ e : BrowserError, e.loss? = none → Probe (f (.error e)))
      (hlost : ∀ d, f (.error (.session d)) = Task.fail (.session d)) :
      Probe (t.attempt >>= f)

/-- What a page may try again. -/
inductive Attempt : {α : Type} → Task E BrowserError α → Prop
  | probe {α : Type} {t : Task E BrowserError α} (ht : Probe t) : Attempt t
  | seek (locator : Locator) : Attempt (FrameSearch.seek locator)

/-- What is done for an action is a sequence of such parts. -/
inductive Part (own : Panic → Prop) : {α : Type} → Task E RunError α → Prop
  | pure {α : Type} (a : α) : Part own (pure a)
  | fail {α : Type} (e : RunError) (he : e.endsWorker = false) :
      Part own (Task.fail e : Task E RunError α)
  | panic {α : Type} {p : Panic} (hp : own p) :
      Part own (Task.panicWith p : Task E RunError α)
  | plain {α : Type} (r : Effect E) (hr : r.isPlain = true) (value : r.Reply E → α) :
      Part own (Program.ask r fun reply => Task.ended (.value (value reply)))
  | probe {α : Type} {t : Task E BrowserError α} (ht : Probe t) :
      Part own (t.mapError RunError.ofBrowser)
  | bind {α β : Type} {t : Task E RunError α} {f : α → Task E RunError β} (ht : Part own t)
      (hf : ∀ a, Part own (f a)) : Part own (t >>= f)
  | trying {α β : Type} {t : Task E BrowserError α} {f : Except BrowserError α → Task E RunError β}
      (ht : Attempt t) (hok : ∀ a, Part own (f (.ok a)))
      (herror : ∀ e : BrowserError, e.loss? = none → Part own (f (.error e)))
      (hlost : ∀ d, f (.error (.session d)) = Task.fail (.session d)) :
      Part own (t.attempt >>= f)

/-- What an instruction does before it writes is a sequence of such parts. -/
inductive Prelude (own : Panic → Prop) : {α : Type} → Task E RunError α → Prop
  | pure {α : Type} (a : α) : Prelude own (pure a)
  | fail {α : Type} (e : RunError) (he : e.isOfExecution = true) :
      Prelude own (Task.fail e : Task E RunError α)
  | panic {α : Type} {p : Panic} (hp : own p) :
      Prelude own (Task.panicWith p : Task E RunError α)
  | plain {α : Type} (r : Effect E) (hr : r.isPlain = true) (hwrites : r.writes = false)
      (value : r.Reply E → α) :
      Prelude own (Program.ask r fun reply => Task.ended (.value (value reply)))
  | probe {α : Type} {t : Task E BrowserError α} (ht : Probe t) :
      Prelude own (t.mapError RunError.ofBrowser)
  | bind {α β : Type} {t : Task E RunError α} {f : α → Task E RunError β} (ht : Prelude own t)
      (hf : ∀ a, Prelude own (f a)) : Prelude own (t >>= f)
  | trying {α β : Type} {t : Task E BrowserError α} {f : Except BrowserError α → Task E RunError β}
      (ht : Attempt t) (hok : ∀ a, Prelude own (f (.ok a)))
      (herror : ∀ e : BrowserError, e.loss? = none → Prelude own (f (.error e)))
      (hlost : ∀ d, f (.error (.session d)) = Task.fail (.session d)) :
      Prelude own (t.attempt >>= f)

/-- A prelude with at most one write behind it, after which nothing can fail. -/
inductive Orderly (own : Panic → Prop) : {α : Type} → Task E RunError α → Prop
  | prelude {α : Type} {t : Task E RunError α} (ht : Prelude own t) : Orderly own t
  | setVariable (key : String) (value : Json.Value) : Orderly own (Task.setVariable key value)
  | log (message : String) : Orderly own (Task.log message)
  | after {α β : Type} {t : Task E RunError α} {f : α → Task E RunError β} (ht : Prelude own t)
      (hf : ∀ a, Orderly own (f a)) : Orderly own (t >>= f)
  | last {α β : Type} {t : Task E RunError α} (ht : Orderly own t) (g : α → β) :
      Orderly own (t >>= fun a => Pure.pure (g a))

/-! ## Searching frames -/

theorem probe_descend (path : List E) : Probe (FrameSearch.descend path) := by
  induction path with
  | nil => exact .pure ()
  | cons frame rest ih => exact .bind (.call (.switchToFrame (.element frame)) nofun) fun _ => ih

theorem probe_enter (path : List E) : Probe (FrameSearch.enter path) :=
  .bind (.call .switchToDefault nofun) fun _ => probe_descend path

theorem probe_visit {look : List E → Task E BrowserError (Option (FrameMatch E))}
    (hlook : ∀ path, Probe (look path)) (path frames : List E) :
    Probe (FrameSearch.visit look path frames) := by
  induction frames with
  | nil => exact .pure none
  | cons frame rest ih =>
      refine .bind (probe_enter path) fun _ => .trying (.call _ nofun) ?_ ?_ fun _ => rfl
      · -- the frame was entered
        refine fun _ => .bind (hlook _) fun found => ?_
        cases found with
        | some found => exact .pure _
        | none => exact ih
      · intro e he
        change Probe (if e.isTransient = true then _ else _)
        split
        · exact ih
        · exact .fail e he

theorem probe_scan (locator : Locator) (depth : Nat) (path : List E) :
    Probe (FrameSearch.scan locator depth path) := by
  induction depth generalizing path with
  | zero => exact .pure none
  | succ depth ih =>
      refine .trying (.call (.find locator) nofun) (fun _ => .pure _) ?_ fun _ => rfl
      intro e he
      change Probe (if e.isTransient = true then _ else _)
      split
      · exact .bind (.call .frames nofun) fun children => probe_visit ih path children
      · exact .fail e he

/-! ## What is done on the session -/

theorem prelude_wait {t : Task E BrowserError α} (ht : Attempt t) (p : WaitPolicy)
    (awaited : String) : Prelude own (p.wait t awaited) := by
  refine .bind (.plain .now rfl rfl id) fun start => ?_
  generalize start + p.timeout = deadline
  generalize p.maxAttempts = fuel
  induction fuel with
  | zero => exact .fail _ rfl
  | succ fuel ih =>
      refine .trying ht (fun a => .pure a) ?_ fun _ => rfl
      intro e he
      change Prelude own (if e.isTransient = true then _ else _)
      split
      · refine .bind (.plain .now rfl rfl id) fun now => ?_
        split
        · exact .fail _ rfl
        · exact .bind (.plain (.sleepUntil _) rfl rfl id) fun _ => ih
      · exact .fail _ (RunError.isOfExecution_ofBrowser he)

theorem prelude_wait_call (c : Call E) (hc : c ≠ .quit) (awaited : String) :
    Prelude own (wait.wait (Task.call c) awaited) :=
  prelude_wait (.probe (.call c hc)) wait awaited

theorem prelude_callOrStop (c : Call E) (hc : c ≠ .quit) : Prelude own (Task.callOrStop c) :=
  .probe (.call c hc)

theorem prelude_clickEach (elements : List E) : Prelude own (clickEach elements) := by
  induction elements with
  | nil => exact .pure ()
  | cons element rest ih =>
      refine .trying (.probe (.call (.click element) nofun)) (fun _ => ih) ?_ fun _ => rfl
      intro e he
      cases e with
      | session d => cases he
      | _ => exact ih

theorem prelude_perform (chain : Chain E) :
    Prelude own (chain.perform.mapError RunError.ofBrowser) := by
  refine .probe ?_
  rw [Chain.perform_eq]
  split
  · exact .pure ()
  · exact .call _ nofun

/-! ## What is read first -/

/-- A parameter that is wrong is a reason that only execution has. -/
theorem prelude_orStop {x : Except RunError α}
    (hx : ∀ e, x = .error e → e.isOfExecution = true) :
    Prelude own (orStop x : Task E RunError α) := by
  cases x with
  | ok a => exact .pure a
  | error e => exact .fail e (hx e rfl)

theorem prelude_locator (kind target : String) :
    Prelude own (orStop (locator kind target) : Task E RunError Locator) := by
  refine prelude_orStop fun e he => ?_
  unfold locator at he
  split at he <;> cases he
  rfl

theorem prelude_keyCodes (names : String) :
    Prelude own (orStop (keyCodes names) : Task E RunError String) := by
  refine prelude_orStop fun e he => ?_
  unfold keyCodes at he
  split at he <;> cases he
  rfl

theorem prelude_dimension (text : String) :
    Prelude own (orStop (dimension text) : Task E RunError Nat) := by
  refine prelude_orStop fun e he => ?_
  unfold dimension at he
  split at he <;> cases he
  rfl

theorem isOfExecution_of_pause {text : String} {e : RunError} (h : pause text = .error e) :
    e.isOfExecution = true := by
  unfold pause at h
  split at h
  · split at h <;> cases h
    rfl
  · cases h
    rfl

theorem prelude_variableText (key : String) :
    Prelude own (variableText key : Task E RunError String) := by
  refine .bind (.plain .readStore rfl rfl id) fun store => ?_
  cases store.text? key with
  | some text => exact .pure text
  | none => exact .fail _ rfl

theorem prelude_started (chain : Option (Chain E)) : Prelude own (started chain) := by
  cases chain with
  | some chain => exact .pure chain
  | none => exact .fail _ rfl

theorem prelude_awaitElement (kind target : String) :
    Prelude own (awaitElement wait kind target : Task E RunError E) :=
  .bind (prelude_locator kind target) fun l => prelude_wait_call (.find l) nofun _

theorem prelude_awaitClick (kind target : String) :
    Prelude own (awaitClick wait kind target : Task E RunError E) :=
  .bind (prelude_awaitElement kind target) fun element =>
    .bind (prelude_wait_call (.click element) nofun _) fun _ => .pure element

theorem prelude_clearElement (kind target : String) :
    Prelude own (clearElement wait kind target : Task E RunError Unit) :=
  .bind (prelude_awaitElement kind target) fun element => prelude_callOrStop (.clear element) nofun

theorem prelude_typeInto (kind target text : String) :
    Prelude own (typeInto wait kind target text : Task E RunError Unit) :=
  .bind (prelude_awaitClick kind target) fun element =>
    prelude_callOrStop (.sendKeys element text) nofun

theorem prelude_enterFrameOf (kind target : String) :
    Prelude own (enterFrameOf wait kind target : Task E RunError Unit) :=
  .bind (prelude_locator kind target) fun l =>
    .bind (prelude_wait (.seek l) wait _) fun found => .probe (probe_enter found.path)

/-- A pause panics if it is too long to be counted. -/
theorem prelude_pauseFor (text : String)
    (hown : ∀ ms, pause text = .ok ms → Clock.pauseOf ms = none → own Clock.pauseTooLong) :
    Prelude own (pauseFor text : Task E RunError Unit) := by
  unfold pauseFor
  cases hms : pause text with
  | error e =>
      change Prelude own (Task.fail e)
      exact .fail e (isOfExecution_of_pause hms)
  | ok ms =>
      simp only [orStop, pure_bind]
      cases hpause : Clock.pauseOf ms with
      | some pause => exact .plain (.sleep pause) rfl rfl id
      | none => exact .panic (hown ms hms hpause)

/-! ## Instructions -/

theorem orderly_setBase (url : String) : Orderly own (setBase url : Task E RunError Unit) := by
  unfold setBase
  split
  · exact .after (prelude_variableText _) fun tier => .setVariable _ _
  · exact .setVariable _ _

/-- An instruction that writes neither to the store nor to the log is a prelude. -/
theorem prelude_execute (wait : WaitPolicy) (chain : Option (Chain E)) {i : Instruction}
    (h : i.isSilent = true) : Prelude i.OwnPanic (execute wait chain i) := by
  cases i with
  | gestureNew => exact .pure _
  | gestureMove kind target =>
      exact .bind (prelude_awaitElement kind target) fun _ =>
        .bind (prelude_started chain) fun _ => .pure _
  | gestureClick => exact .bind (prelude_started chain) fun _ => .pure _
  | gestureKeys names =>
      exact .bind (prelude_keyCodes names) fun _ =>
        .bind (prelude_started chain) fun _ => .pure _
  | gesturePerform =>
      exact .bind (prelude_started chain) fun started =>
        .bind (prelude_perform started) fun _ => .pure _
  | clear kind target =>
      exact .bind (prelude_clearElement kind target) fun _ => .pure chain
  | clearType kind target text =>
      exact .bind (prelude_clearElement kind target) fun _ =>
        .bind (prelude_typeInto kind target text) fun _ => .pure chain
  | click kind target =>
      exact .bind (prelude_awaitClick kind target) fun _ => .pure chain
  | clickAll kind target =>
      exact .bind (prelude_locator kind target) fun l =>
        .bind (prelude_callOrStop (.findAll l) nofun) fun elements =>
          .bind (prelude_clickEach elements) fun _ => .pure chain
  | keys kind target names =>
      exact .bind (prelude_keyCodes names) fun codes =>
        .bind (prelude_typeInto kind target codes) fun _ => .pure chain
  | selectByText kind target label =>
      exact .bind (prelude_awaitElement kind target) fun element =>
        .bind (prelude_wait_call (.selectByText element label) nofun _) fun _ => .pure chain
  | selectByValue kind target value =>
      exact .bind (prelude_awaitElement kind target) fun element =>
        .bind (prelude_wait_call (.selectByValue element value) nofun _) fun _ => .pure chain
  | typeText kind target text =>
      exact .bind (prelude_typeInto kind target text) fun _ => .pure chain
  | typeVariable kind target key =>
      exact .bind (prelude_variableText key) fun text =>
        .bind (prelude_typeInto kind target text) fun _ => .pure chain
  | openPage path =>
      exact .bind (prelude_variableText "base") fun base =>
        .bind (prelude_callOrStop (.navigate (base ++ path)) nofun) fun _ => .pure chain
  | findFrame kind target =>
      exact .bind (prelude_enterFrameOf kind target) fun _ => .pure chain
  | switchToDefault =>
      exact .bind (prelude_callOrStop .switchToDefault nofun) fun _ => .pure chain
  | switchToFrame frame =>
      exact .bind (prelude_wait_call (.switchToFrame (frameTarget frame)) nofun _) fun _ => .pure chain
  | setWindowSize width height =>
      exact .bind (prelude_dimension width) fun width =>
        .bind (prelude_dimension height) fun height =>
          .bind (prelude_callOrStop (.setWindowSize width height) nofun) fun _ => .pure chain
  | delay text =>
      have hown : ∀ ms, pause text = .ok ms → Clock.pauseOf ms = none →
          (Instruction.delay text).OwnPanic Clock.pauseTooLong :=
        fun ms hms hlong => ⟨rfl, text, ms, rfl, hms, hlong⟩
      exact .bind (prelude_pauseFor text hown) fun _ => .pure chain
  | verifyText kind target expected =>
      refine .bind (prelude_awaitElement kind target) fun element =>
        .bind (prelude_callOrStop (.readText element) nofun) fun text => ?_
      cases Text.contains text expected with
      | true => exact .pure chain
      | false => exact .fail _ rfl
  | _ => cases h

/-- Every instruction is orderly. -/
theorem orderly_execute (wait : WaitPolicy) (chain : Option (Chain E)) (i : Instruction) :
    Orderly i.OwnPanic (execute wait chain i) := by
  cases i with
  | baseUrl url => exact .last (orderly_setBase url) fun _ => chain
  | setVariable key value => exact .last (.setVariable key _) fun _ => chain
  | randomSsn key =>
      exact .after (.plain .draw rfl rfl Fin.val) fun n => .last (.setVariable key _) fun _ => chain
  | storeAttribute kind target name key =>
      exact .after (prelude_awaitElement kind target) fun element =>
        .after (prelude_callOrStop (.readAttribute element name) nofun) fun value =>
          .last (.setVariable key _) fun _ => chain
  | storeText kind target key =>
      exact .after (prelude_awaitElement kind target) fun element =>
        .after (prelude_callOrStop (.readText element) nofun) fun text =>
          .last (.setVariable key _) fun _ => chain
  | log message => exact .last (.log message) fun _ => chain
  | logVariable key =>
      exact .after (prelude_variableText key) fun text => .last (.log text) fun _ => chain
  | _ => exact .prelude (prelude_execute wait chain rfl)

/-! ## Whatever the order -/

theorem Prelude.part {t : Task E RunError α} (ht : Prelude own t) : Part own t := by
  induction ht with
  | pure a => exact .pure a
  | fail e he => exact .fail e (RunError.endsWorker_of_isOfExecution he)
  | panic hp => exact .panic hp
  | plain r hr _ value => exact .plain r hr value
  | probe ht => exact .probe ht
  | bind _ _ ih ihf => exact .bind ih ihf
  | trying ht _ _ hlost ihok iherror => exact .trying ht ihok iherror hlost

/-- What is orderly is made of parts. -/
theorem Orderly.part {t : Task E RunError α} (ht : Orderly own t) : Part own t := by
  induction ht with
  | prelude ht => exact ht.part
  | setVariable key value => exact .plain (.setVariable key value) rfl id
  | log message => exact .plain (.log message) rfl id
  | after ht _ ihf => exact .bind ht.part ihf
  | last _ g ih => exact .bind ih fun a => .pure (g a)

/-- More panics may be its own. -/
theorem Part.mono {own' : Panic → Prop} {t : Task E RunError α} (ht : Part own t)
    (h : ∀ p, own p → own' p) : Part own' t := by
  induction ht with
  | pure a => exact .pure a
  | fail e he => exact .fail e he
  | panic hp => exact .panic (h _ hp)
  | plain r hr value => exact .plain r hr value
  | probe ht => exact .probe ht
  | bind _ _ ih ihf => exact .bind ih ihf
  | trying ht _ _ hlost ihok iherror => exact .trying ht ihok iherror hlost

/-! ## Actions -/

/-- What is done for an action of a run that is not cancelled. -/
def carryOut (wait : WaitPolicy) (chain : Option (Chain E)) (action : Action) :
    Task E RunError (Option (Chain E)) := do
  announce action
  let instruction ← orStop action.instruction
  execute wait chain instruction

/-- An action is carried out unless the run is found to be cancelled. -/
theorem runAction_eq (wait : WaitPolicy) (chain : Option (Chain E)) (action : Action) :
    runAction wait chain action =
      Task.isCancelled >>= fun cancelled =>
        if cancelled then Task.fail .cancelled else carryOut wait chain action :=
  rfl

theorem endsWorker_of_instruction {action : Action} {e : RunError}
    (h : action.instruction = .error e) : e.endsWorker = false := by
  unfold Action.instruction at h
  split at h
  · cases h
    rfl
  · split at h <;> cases h
    rfl

theorem part_announce (action : Action) : Part own (announce action : Task E RunError Unit) := by
  refine .bind (.plain .readStore rfl id) fun store => ?_
  cases store.flag "debug" with
  | true => exact .plain (.log _) rfl id
  | false => exact .pure ()

/-- An action that is wrong ends the page, but not the worker. -/
theorem part_carryOut (wait : WaitPolicy) (chain : Option (Chain E)) (action : Action) :
    Part action.OwnPanic (carryOut wait chain action) := by
  unfold carryOut
  refine .bind (part_announce action) fun _ => ?_
  cases hinstruction : action.instruction with
  | error e =>
      change Part action.OwnPanic (Task.fail e)
      exact .fail e (endsWorker_of_instruction hinstruction)
  | ok i => exact (orderly_execute wait chain i).part.mono fun p hp => ⟨i, hinstruction, hp⟩

theorem part_settle (settings : PageSettings) (left : Nat) :
    Part (fun _ => False) (settle settings left : Task E RunError Unit) := by
  refine .bind (.plain (.sleep _) rfl id) fun _ => ?_
  split
  · exact .plain (.sleep _) rfl id
  · exact .pure ()

end PageRun

end BrowserSuite
