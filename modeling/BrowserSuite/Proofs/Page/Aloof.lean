import BrowserSuite.Proofs.Page.Parameters
import BrowserSuite.Proofs.Page.Pending
import BrowserSuite.Proofs.Page.Preludes

/-!
# What has nothing to do with gestures

Five instructions work on the pending chain of a page.  All the others make no gesture, do not fail
for want of a chain (`PageRun.aloof_execute`) and leave the chain as it is
(`PageRun.chain_of_execute`).

That a task is aloof is read off the parts that it is made of.  A frame search is made of calls
that are listed once (`FrameSearch.asks_find`).
-/

namespace BrowserSuite

namespace Effect

variable {E : Type}

/-- The gesture that a request makes. -/
def gesture? : Effect E → Option (List (Gesture E))
  | .call (.performGestures steps) => some steps
  | _ => none

/-- A request that a frame search makes. -/
def isOfSearch : Effect E → Bool
  | .call (.find _) | .call .frames | .call (.switchToFrame _) | .call .switchToDefault
  | .frameBound => true
  | _ => false

theorem gesture?_of_isOfSearch {r : Effect E} (h : r.isOfSearch = true) : r.gesture? = none := by
  unfold isOfSearch at h
  split at h <;> first | rfl | cases h

end Effect

/-- An instruction that works on the pending chain. -/
def Instruction.isOnChain : Instruction → Bool
  | gestureNew | gestureMove _ _ | gestureClick | gestureKeys _ | gesturePerform => true
  | _ => false

/-! ## What a frame search asks -/

namespace FrameSearch

open BrowserSuite.Task (Asks)

variable {E : Type}

theorem asks_attempt {c : Call E} (hc : (Effect.call c).isOfSearch = true) :
    Asks (·.isOfSearch = true)
      ((Task.call c).attempt : Task E BrowserError (Except BrowserError c.Reply)) :=
  .attempt (.call hc)

theorem asks_enter (path : List E) : Asks (·.isOfSearch = true) (enter path) := by
  refine .bind (.call rfl) fun _ => ?_
  induction path with
  | nil => exact .pure ()
  | cons frame rest ih => exact .bind (.call rfl) fun _ => ih

theorem asks_visit {look : List E → Task E BrowserError (Option (FrameMatch E))}
    (hlook : ∀ path, Asks (·.isOfSearch = true) (look path)) (path frames : List E) :
    Asks (·.isOfSearch = true) (visit look path frames) := by
  induction frames with
  | nil => exact .pure none
  | cons frame rest ih =>
      refine .bind (asks_enter path) fun _ => .bind (asks_attempt rfl) fun entered => ?_
      cases entered with
      | ok u =>
          refine .bind (hlook _) fun found => ?_
          cases found with
          | some found => exact .pure _
          | none => exact ih
      | error e =>
          change Asks _ (if e.isTransient = true then _ else _)
          split
          · exact ih
          · exact .fail e

theorem asks_scan (locator : Locator) (depth : Nat) (path : List E) :
    Asks (·.isOfSearch = true) (scan locator depth path) := by
  induction depth generalizing path with
  | zero => exact .pure none
  | succ depth ih =>
      refine .bind (asks_attempt rfl) fun looked => ?_
      cases looked with
      | ok element => exact .pure _
      | error e =>
          change Asks _ (if e.isTransient = true then _ else _)
          split
          · exact .bind (.call rfl) fun children => asks_visit ih path children
          · exact .fail e

theorem asks_find (locator : Locator) :
    Asks (·.isOfSearch = true)
      (find locator : Task E BrowserError (Option (FrameMatch E))) := by
  refine .bind (.call rfl) fun _ => .bind (.ask rfl fun _ => .ended _) fun n => ?_
  refine .bind (asks_scan locator (n + 1) []).attempt fun found =>
    .bind (asks_attempt rfl) fun reset => ?_
  cases found with
  | error e => exact .fail e
  | ok m =>
      cases reset with
      | error e => exact .fail e
      | ok u => exact .pure m

end FrameSearch

/-! ## Aloof tasks -/

namespace Task

variable {E α β : Type} {t : Task E RunError α}

/-- A task that makes no gesture and does not fail for want of a chain. -/
structure Aloof (t : Task E RunError α) : Prop where
  asks : Asks (·.gesture? = none) t
  failsWith : FailsWith (· ≠ .chainNotStarted) t

namespace Aloof

theorem pure (a : α) : Aloof (Pure.pure a : Task E RunError α) := ⟨.pure a, .pure a⟩

theorem fail {e : RunError} (he : e ≠ .chainNotStarted) :
    Aloof (Task.fail e : Task E RunError α) := ⟨.fail e, .fail he⟩

theorem panicWith (p : Panic) : Aloof (Task.panicWith p : Task E RunError α) :=
  ⟨.ended _, .panicWith p⟩

theorem ask {r : Effect E} (hr : r.gesture? = none) {value : r.Reply E → α} :
    Aloof (Program.ask r fun reply => ended (.value (value reply)) : Task E RunError α) :=
  ⟨.ask hr fun _ => .ended _, .ask⟩

theorem bind {f : α → Task E RunError β} (ht : Aloof t) (hf : ∀ a, Aloof (f a)) :
    Aloof (t >>= f) :=
  ⟨ht.asks.bind fun a => (hf a).asks, ht.failsWith.bind fun a => (hf a).failsWith⟩

theorem attempt {t : Task E BrowserError α} (ht : Asks (·.gesture? = none) t) :
    Aloof (t.attempt : Task E RunError (Except BrowserError α)) :=
  ⟨ht.attempt, .attempt t⟩

theorem mapError {t : Task E BrowserError α} (ht : Asks (·.gesture? = none) t) :
    Aloof (t.mapError RunError.ofBrowser) :=
  ⟨ht.mapError _, .mapError (fun e => by cases e <;> nofun) t⟩

end Aloof

end Task

namespace PageRun

open BrowserSuite.Task (Asks Aloof)

variable {E α : Type} {wait : WaitPolicy}

/-! ## What is done on the session -/

theorem aloof_wait {t : Task E BrowserError α} (ht : Asks (·.gesture? = none) t)
    (awaited : String) : Aloof (wait.wait t awaited) := by
  refine .bind (.ask rfl) fun start => ?_
  generalize start + wait.timeout = deadline
  generalize wait.maxAttempts = fuel
  induction fuel with
  | zero => exact .fail nofun
  | succ fuel ih =>
      refine (Aloof.attempt ht).bind fun r => ?_
      cases r with
      | ok a => exact .pure a
      | error e =>
          change Aloof (if e.isTransient = true then _ else _)
          split
          · refine .bind (.ask rfl) fun now => ?_
            split
            · exact .fail nofun
            · exact .bind (.ask rfl) fun _ => ih
          · exact .fail (by cases e <;> nofun)

theorem aloof_callOrStop {c : Call E} (hc : (Effect.call c).gesture? = none) :
    Aloof (Task.callOrStop c) :=
  .mapError (.call hc)

theorem aloof_clickEach (elements : List E) : Aloof (clickEach elements) := by
  induction elements with
  | nil => exact .pure ()
  | cons element rest ih =>
      refine (Aloof.attempt (.call rfl)).bind fun r => ?_
      rcases attempt_cases r with ⟨u, rfl⟩ | ⟨d, rfl⟩ | ⟨e, rfl, he⟩
      · exact ih
      · exact .fail nofun
      · cases e with
        | session d => cases he
        | _ => exact ih

/-! ## What is read first -/

/-- A parameter that cannot be used is a reason of its own to stop. -/
theorem aloof_orStop {wrong : Option BadParameter} {x : Except RunError α} (hx : MadeOf wrong x) :
    Aloof (orStop x : Task E RunError α) := by
  cases wrong with
  | none =>
      obtain ⟨a, rfl⟩ := hx
      exact .pure a
  | some bad =>
      rw [show x = .error (.invalidParameter bad) from hx]
      exact .fail nofun

theorem aloof_variableText (key : String) :
    Aloof (variableText key : Task E RunError String) := by
  refine .bind (.ask rfl) fun store => ?_
  cases store.text? key with
  | some text => exact .pure text
  | none => exact .fail nofun

/-! ## What instructions share -/

theorem aloof_awaitElement (kind target : String) :
    Aloof (awaitElement wait kind target : Task E RunError E) :=
  .bind (aloof_orStop (madeOf_locator kind target)) fun _ => aloof_wait (.call rfl) _

theorem aloof_awaitClick (kind target : String) :
    Aloof (awaitClick wait kind target : Task E RunError E) :=
  .bind (aloof_awaitElement kind target) fun element =>
    .bind (aloof_wait (.call rfl) _) fun _ => .pure element

theorem aloof_clearElement (kind target : String) :
    Aloof (clearElement wait kind target : Task E RunError Unit) :=
  .bind (aloof_awaitElement kind target) fun _ => aloof_callOrStop rfl

theorem aloof_typeInto (kind target text : String) :
    Aloof (typeInto wait kind target text : Task E RunError Unit) :=
  .bind (aloof_awaitClick kind target) fun _ => aloof_callOrStop rfl

theorem aloof_enterFrameOf (kind target : String) :
    Aloof (enterFrameOf wait kind target : Task E RunError Unit) := by
  refine .bind (aloof_orStop (madeOf_locator kind target)) fun l =>
    .bind (aloof_wait ?_ _) fun found => ?_
  · refine .bind ((FrameSearch.asks_find l).mono fun _ => Effect.gesture?_of_isOfSearch)
      fun found => ?_
    cases found with
    | some found => exact .pure found
    | none => exact .fail _
  · exact .mapError ((FrameSearch.asks_enter _).mono fun _ => Effect.gesture?_of_isOfSearch)

theorem aloof_setBase (url : String) : Aloof (setBase url : Task E RunError Unit) := by
  unfold setBase
  split
  · exact .bind (aloof_variableText _) fun _ => .ask rfl
  · exact .ask rfl

theorem aloof_pauseFor (text : String) : Aloof (pauseFor text : Task E RunError Unit) := by
  refine .bind (aloof_orStop (madeOf_pause text)) fun ms => ?_
  cases Clock.pauseOf ms with
  | some pause => exact .ask rfl
  | none => exact .panicWith _

/-! ## The other instructions -/

variable {i : Instruction}

theorem aloof_execute (hi : i.isOnChain = false) (wait : WaitPolicy) (chain : Option (Chain E)) :
    Aloof (execute wait chain i) := by
  cases i with
  | gestureNew | gestureMove _ _ | gestureClick | gestureKeys _ | gesturePerform => cases hi
  | clear kind target => exact .bind (aloof_clearElement kind target) fun _ => .pure chain
  | clearType kind target text =>
      exact .bind (aloof_clearElement kind target) fun _ =>
        .bind (aloof_typeInto kind target text) fun _ => .pure chain
  | click kind target => exact .bind (aloof_awaitClick kind target) fun _ => .pure chain
  | clickAll kind target =>
      exact .bind (aloof_orStop (madeOf_locator kind target)) fun _ =>
        .bind (aloof_callOrStop rfl) fun elements =>
          .bind (aloof_clickEach elements) fun _ => .pure chain
  | keys kind target names =>
      exact .bind (aloof_orStop (madeOf_keyCodes names)) fun codes =>
        .bind (aloof_typeInto kind target codes) fun _ => .pure chain
  | selectByText kind target _ | selectByValue kind target _ =>
      exact .bind (aloof_awaitElement kind target) fun _ =>
        .bind (aloof_wait (.call rfl) _) fun _ => .pure chain
  | typeText kind target text =>
      exact .bind (aloof_typeInto kind target text) fun _ => .pure chain
  | typeVariable kind target key =>
      exact .bind (aloof_variableText key) fun text =>
        .bind (aloof_typeInto kind target text) fun _ => .pure chain
  | baseUrl url => exact .bind (aloof_setBase url) fun _ => .pure chain
  | openPage path =>
      exact .bind (aloof_variableText "base") fun _ =>
        .bind (aloof_callOrStop rfl) fun _ => .pure chain
  | findFrame kind target => exact .bind (aloof_enterFrameOf kind target) fun _ => .pure chain
  | switchToDefault => exact .bind (aloof_callOrStop rfl) fun _ => .pure chain
  | switchToFrame frame => exact .bind (aloof_wait (.call rfl) _) fun _ => .pure chain
  | setWindowSize width height =>
      exact .bind (aloof_orStop (madeOf_dimension width)) fun _ =>
        .bind (aloof_orStop (madeOf_dimension height)) fun _ =>
          .bind (aloof_callOrStop rfl) fun _ => .pure chain
  | setVariable key value => exact .bind (.ask rfl) fun _ => .pure chain
  | randomSsn key => exact .bind (.ask rfl) fun _ => .bind (.ask rfl) fun _ => .pure chain
  | storeAttribute kind target _ _ | storeText kind target _ =>
      exact .bind (aloof_awaitElement kind target) fun _ =>
        .bind (aloof_callOrStop rfl) fun _ => .bind (.ask rfl) fun _ => .pure chain
  | log message => exact .bind (.ask rfl) fun _ => .pure chain
  | logVariable key =>
      exact .bind (aloof_variableText key) fun _ => .bind (.ask rfl) fun _ => .pure chain
  | delay text => exact .bind (aloof_pauseFor text) fun _ => .pure chain
  | verifyText kind target expected =>
      refine .bind (aloof_awaitElement kind target) fun _ =>
        .bind (aloof_callOrStop rfl) fun text => ?_
      split
      · exact .pure chain
      · exact .fail nofun

/-- The chain that such an instruction leaves is the one that it found. -/
theorem chain_of_execute (hi : i.isOnChain = false) {chain chain' : Option (Chain E)}
    {steps : List (Task.Step E)} (h : (execute wait chain i).Ends steps (.value chain')) :
    chain' = chain := by
  have hexecute : execute wait chain i =
      (execute wait none i >>= fun _ => pure ()) >>= fun _ => pure chain := by
    cases i with
    | gestureNew | gestureMove _ _ | gestureClick | gestureKeys _ | gesturePerform => cases hi
    | _ => exact (forgotten_executeOn _ chain).symm.trans (ChainTask.forgotten_aside _)
  rw [hexecute] at h
  obtain ⟨_, _, _, -, -, hrest⟩ := Task.ends_bind_value_iff.mp h
  exact (Task.ends_pure_value_iff.mp hrest).2

end PageRun

end BrowserSuite
