import BrowserSuite.Proofs.Page.Parts
import BrowserSuite.Proofs.Program.Running

/-!
# The chain that an action leaves

A page that stops has no use for its pending chain, so `PageRun.execute` gives the chain that
is left with a value only.  To say what a failed action does to the chain, the chain has to be
seen after a failure as well.  A `ChainTask` is a task that has the pending chain as its state:
adding a step changes it, performing takes it away before the gesture is made, and it is shown
however the task ends.

`PageRun.actOn` runs an action in this way.  It is the same run: where the chain is forgotten
unless there is a value, `PageRun.runAction` is left (`forgotten_actOn`).
-/

namespace BrowserSuite

/-- A task on a pending chain, which shows the chain that is pending when it ends. -/
def ChainTask (E α : Type) : Type := StateTask (Option (Chain E)) E RunError α

namespace ChainTask

variable {E α β : Type}

instance : Monad (ChainTask E) :=
  inferInstanceAs (Monad (StateTask (Option (Chain E)) E RunError))

/-- A task that leaves the pending chain alone. -/
def aside (t : Task E RunError α) : ChainTask E α := StateTask.aside t

/-- The pending chain, if one has been started. -/
def pending : ChainTask E (Chain E) := fun chain => aside (PageRun.started chain) chain

/-- Puts another chain in the place of the pending one. -/
def replace (chain : Option (Chain E)) : ChainTask E Unit := StateTask.replace chain

/-- Adds a step to the pending chain. -/
def extend (step : Gesture E) : ChainTask E Unit := do
  let chain ← pending
  replace (some (chain.add step))

/-- An ending with its chain, if there is a value. -/
def withChain : Ending RunError Unit × Option (Chain E) → Ending RunError (Option (Chain E))
  | (.value (), chain) => .value chain
  | (.failed e, _) => .failed e
  | (.panicked p, _) => .panicked p

/-- The task that shows the chain that is left only together with a value. -/
def forgotten (t : ChainTask E Unit) (chain : Option (Chain E)) :
    Task E RunError (Option (Chain E)) :=
  Program.bind (t chain) fun r => .done (withChain r)

variable {chain : Option (Chain E)}

theorem forgotten_aside (t : Task E RunError Unit) :
    (aside t).forgotten chain = t >>= fun _ => pure chain := by
  refine (Program.bind_assoc t _ _).trans (congrArg (Program.bind t) (funext fun x => ?_))
  cases x <;> rfl

theorem forgotten_aside_bind (t : Task E RunError α) (f : α → ChainTask E Unit) :
    (aside t >>= f).forgotten chain = t >>= fun a => (f a).forgotten chain := by
  refine (Program.bind_assoc (Program.bind t _) _ _).trans ((Program.bind_assoc t _ _).trans ?_)
  refine congrArg (Program.bind t) (funext fun x => ?_)
  cases x <;> rfl

theorem forgotten_pending_bind (f : Chain E → ChainTask E Unit) :
    (pending >>= f).forgotten chain =
      PageRun.started chain >>= fun c => (f c).forgotten chain :=
  forgotten_aside_bind (PageRun.started chain) f

theorem forgotten_replace_bind (other : Option (Chain E)) (f : Unit → ChainTask E Unit) :
    (replace other >>= f).forgotten chain = (f ()).forgotten other := rfl

theorem forgotten_extend (step : Gesture E) :
    (extend step).forgotten chain =
      PageRun.started chain >>= fun c => pure (some (c.add step)) :=
  forgotten_pending_bind _

end ChainTask

namespace PageRun

open ChainTask

variable {E : Type} {wait : WaitPolicy}

/-- Executes an instruction on the pending chain. -/
def executeOn (wait : WaitPolicy) : Instruction → ChainTask E Unit
  | .gestureNew => replace (some Chain.empty)
  | .gestureMove kind target => do
    let element ← aside (awaitElement wait kind target)
    extend (.moveTo element)
  | .gestureClick => extend .click
  | .gestureKeys names => do
    let codes ← aside (orStop (keyCodes names))
    extend (.keys codes)
  | .gesturePerform => do
    let chain ← pending
    replace none
    aside (chain.perform.mapError RunError.ofBrowser)
  | i => aside (execute wait none i >>= fun _ => pure ())

/-- Runs one action on the pending chain. -/
def actOn (wait : WaitPolicy) (action : Action) : ChainTask E Unit := do
  if ← aside Task.isCancelled then aside (Task.fail .cancelled)
  else do
    aside (announce action)
    let instruction ← aside (orStop action.instruction)
    executeOn wait instruction

theorem forgotten_executeOn (i : Instruction) (chain : Option (Chain E)) :
    (executeOn wait i).forgotten chain = execute wait chain i := by
  cases i with
  | gestureNew => rfl
  | gestureMove kind target =>
      refine (forgotten_aside_bind _ _).trans (congrArg (_ >>= ·) (funext fun element => ?_))
      exact forgotten_extend _
  | gestureClick => exact forgotten_extend _
  | gestureKeys names =>
      refine (forgotten_aside_bind _ _).trans (congrArg (_ >>= ·) (funext fun codes => ?_))
      exact forgotten_extend _
  | gesturePerform =>
      refine (forgotten_pending_bind _).trans (congrArg (_ >>= ·) (funext fun c => ?_))
      exact (forgotten_replace_bind _ _).trans (forgotten_aside _)
  | verifyText kind target expected =>
      refine (forgotten_aside _).trans ?_
      simp only [execute, bind_assoc]
      refine congrArg (_ >>= ·) (funext fun element => congrArg (_ >>= ·) (funext fun text => ?_))
      cases Text.contains text expected <;> rfl
  | _ =>
      -- no gesture: the chain goes through
      refine (forgotten_aside _).trans ?_
      simp only [execute, bind_assoc, pure_bind]

/-- With the chain forgotten, what is left is an action as a page runs it. -/
theorem forgotten_actOn (action : Action) (chain : Option (Chain E)) :
    (actOn wait action).forgotten chain = runAction wait chain action := by
  refine (forgotten_aside_bind _ _).trans (congrArg (_ >>= ·) (funext fun cancelled => ?_))
  cases cancelled with
  | true => exact forgotten_aside _
  | false =>
      refine (forgotten_aside_bind _ _).trans (congrArg (_ >>= ·) (funext fun _ => ?_))
      refine (forgotten_aside_bind _ _).trans (congrArg (_ >>= ·) (funext fun i => ?_))
      exact forgotten_executeOn i chain

end PageRun

namespace World

/-- Runs a task on a pending chain. -/
def runOn {α : Type} (w : World) (chain : Option (Chain Handle)) (t : ChainTask Handle α) :
    (Ending RunError α × Option (Chain Handle)) × World :=
  Program.run answer (t chain) w

/-- A run that shows the chain is the run that forgets it. -/
theorem run_forgotten (w : World) (chain : Option (Chain Handle)) (t : ChainTask Handle Unit) :
    w.run (t.forgotten chain) =
      (ChainTask.withChain (w.runOn chain t).1, (w.runOn chain t).2) :=
  Program.run_bind answer (t chain) _ w

end World

end BrowserSuite
