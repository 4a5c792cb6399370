import BrowserSuite.Engine.StateTask

/-!
# Gesture chains

Steps of a gesture are collected and then performed together.  Performing takes
the steps out of the chain first, so a chain is empty afterwards even if the
gesture failed, and no step is ever sent twice.  A chain without steps is
performed without a call.
-/

namespace BrowserSuite

/-- The steps of a gesture that have not been performed yet. -/
structure Chain (E : Type) where
  pending : List (Gesture E)
  deriving DecidableEq, Repr

namespace Chain

variable {E : Type}

/-- The chain without steps. -/
def empty : Chain E := ⟨[]⟩

/-- A chain with one more step at its end. -/
def add (c : Chain E) (step : Gesture E) : Chain E := ⟨c.pending ++ [step]⟩

/-- Takes the pending steps out of the chain. -/
def take : StateTask (Chain E) E BrowserError (List (Gesture E)) := do
  let c ← StateTask.current
  StateTask.replace empty
  pure c.pending

/-- An operation on a chain. -/
inductive Operation (E : Type) where
  | add (step : Gesture E)
  | restart
  | perform

/-- Applies an operation to the chain. -/
def Operation.apply : Operation E → StateTask (Chain E) E BrowserError Unit
  | .add step => do
    let c ← StateTask.current
    StateTask.replace (c.add step)
  | .restart => StateTask.replace empty
  | .perform => do
    let c ← StateTask.current
    if c.pending.isEmpty then pure ()
    else do
      let steps ← take
      StateTask.aside (Task.call (.performGestures steps))

/-- Performing asks for one call, or for none.  The chain that is left was settled before. -/
theorem Operation.apply_perform (c : Chain E) :
    Operation.perform.apply c =
      if c.pending.isEmpty then .done (.value (), c)
      else Program.bind (Task.call (.performGestures c.pending)) fun x => .done (x, empty) := by
  by_cases h : c.pending.isEmpty
  · rw [if_pos h]
    exact congrFun (if_pos h) c
  · rw [if_neg h]
    exact congrFun (if_neg h) c

/-- Performs the pending steps as one gesture. -/
def perform (c : Chain E) : Task E BrowserError Unit := Operation.perform.apply.startedIn c

theorem perform_eq (c : Chain E) :
    c.perform =
      if c.pending.isEmpty then pure () else Task.call (.performGestures c.pending) := by
  rw [perform, StateTask.startedIn, Operation.apply_perform]
  split
  · rfl
  · exact (Program.bind_assoc _ _ _).trans (Program.bind_done _)

end Chain

end BrowserSuite
