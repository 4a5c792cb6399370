import BrowserSuite.Engine.Task

/-!
# Tasks with a state

What a task changes of its own, and does not ask for, is still there when it has
failed or panicked.  A `StateTask` keeps such a state and shows what is left of
it, however it ends.
-/

namespace BrowserSuite

/-- A task that keeps a state, and shows the state that is left when it ends. -/
def StateTask (σ E ε α : Type) : Type := σ → Program (Effect.Reply E) (Ending ε α × σ)

namespace StateTask

variable {σ E ε α β : Type}

/-- Goes on with `f`, in the state that is left, where a task ends with a value. -/
def bind (t : StateTask σ E ε α) (f : α → StateTask σ E ε β) : StateTask σ E ε β := fun s =>
  Program.bind (t s) fun
    | (.value a, s) => f a s
    | (.failed e, s) => .done (.failed e, s)
    | (.panicked p, s) => .done (.panicked p, s)

instance : Monad (StateTask σ E ε) where
  pure a := fun s => .done (.value a, s)
  bind := bind

/-- A task that leaves the state alone. -/
def aside (t : Task E ε α) : StateTask σ E ε α := fun s => Program.bind t fun x => .done (x, s)

/-- The state. -/
def current : StateTask σ E ε σ := fun s => .done (.value s, s)

/-- Puts another state in the place of the one that is there. -/
def replace (s : σ) : StateTask σ E ε Unit := fun _ => .done (.value (), s)

/-- The task from a state that does not show what is left of it. -/
def startedIn (t : StateTask σ E ε α) (s : σ) : Task E ε α := Program.bind (t s) fun r => .done r.1

end StateTask

end BrowserSuite
