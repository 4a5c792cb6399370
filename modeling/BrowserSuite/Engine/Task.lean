import BrowserSuite.Browser.Call
import BrowserSuite.Ending
import BrowserSuite.Engine.Error
import BrowserSuite.Program
import BrowserSuite.Store

/-!
# Tasks

A task is a program that works on one browser session.  Its requests are the
session's calls, the clock, the run's cancellation, and the worker's store and
log; a task ends with a value, with an error or with a panic.

The store and the log are requests too, and not parts of the result: what a
task wrote before it failed stays written.
-/

namespace BrowserSuite

/-- The largest number drawn for an identifier. -/
def maxDraw : Nat := 999999999

/-- What a task can ask for. -/
inductive Effect (E : Type) where
  | call (c : Call E)
  /-- Waits for some milliseconds. -/
  | sleep (ms : Nat)
  /-- Waits until a time in whole milliseconds. -/
  | sleepUntil (time : Nat)
  /-- The time in whole milliseconds. -/
  | now
  /-- Whether the run has been cancelled. -/
  | isCancelled
  /-- A number that no chain of nested frames of the session exceeds. -/
  | frameBound
  | readStore
  | setVariable (key : String) (value : Json.Value)
  | log (message : String)
  /-- A random number below `maxDraw`. -/
  | draw

/-- What a request of a task is answered with. -/
abbrev Effect.Reply (E : Type) : Effect E → Type
  | .call c => Ending BrowserError c.Reply
  | .now | .frameBound => Nat
  | .isCancelled => Bool
  | .readStore => Store
  | .draw => Fin maxDraw
  | .sleep _ | .sleepUntil _ | .setVariable _ _ | .log _ => Unit

/-- A program on one session that ends with a value of type `α` or an error of
type `ε`, or panics. -/
def Task (E ε α : Type) : Type := Program (Effect.Reply E) (Ending ε α)

namespace Task

variable {E ε ε' α β γ : Type}

/-- The task that ends at once. -/
def ended (e : Ending ε α) : Task E ε α := Program.done e

/-- Goes on with `f` where a task ends with a value. -/
def bind (t : Task E ε α) (f : α → Task E ε β) : Task E ε β :=
  Program.bind t fun
    | .value a => f a
    | .failed e => ended (.failed e)
    | .panicked p => ended (.panicked p)

instance : Monad (Task E ε) where
  pure a := ended (.value a)
  bind := bind

theorem bind_value (t : Task E ε α) : t.bind (fun a => ended (.value a)) = t := by
  refine (congrArg (Program.bind t) (funext fun e => ?_)).trans (Program.bind_done t)
  cases e <;> rfl

theorem bind_bind (t : Task E ε α) (f : α → Task E ε β) (g : β → Task E ε γ) :
    (t.bind f).bind g = t.bind fun a => (f a).bind g := by
  refine (Program.bind_assoc t _ _).trans (congrArg (Program.bind t) (funext fun e => ?_))
  cases e <;> rfl

instance : LawfulMonad (Task E ε) :=
  LawfulMonad.mk' (Task E ε) bind_value (fun _ _ => rfl) bind_bind

/-- The task that fails. -/
def fail (e : ε) : Task E ε α := ended (.failed e)

/-- The task that panics. -/
def panicWith (p : Panic) : Task E ε α := ended (.panicked p)

/-- Makes one session call. -/
def call (c : Call E) : Task E BrowserError c.Reply := Program.ask (.call c) Program.done

/-- Waits for some milliseconds. -/
def sleep (ms : Nat) : Task E ε Unit := Program.ask (.sleep ms) fun _ => ended (.value ())

/-- Waits until a time in whole milliseconds. -/
def sleepUntil (time : Nat) : Task E ε Unit :=
  Program.ask (.sleepUntil time) fun _ => ended (.value ())

/-- The time in whole milliseconds. -/
def now : Task E ε Nat := Program.ask .now fun t => ended (.value t)

/-- Whether the run has been cancelled. -/
def isCancelled : Task E ε Bool := Program.ask .isCancelled fun b => ended (.value b)

/-- A number that no chain of nested frames of the session exceeds. -/
def frameBound : Task E ε Nat := Program.ask .frameBound fun n => ended (.value n)

/-- The worker's store. -/
def readStore : Task E ε Store := Program.ask .readStore fun s => ended (.value s)

/-- Sets a variable of the worker's store. -/
def setVariable (key : String) (value : Json.Value) : Task E ε Unit :=
  Program.ask (.setVariable key value) fun _ => ended (.value ())

/-- Writes a message to the suite's log. -/
def log (message : String) : Task E ε Unit := Program.ask (.log message) fun _ => ended (.value ())

/-- A random number below `maxDraw`. -/
def draw : Task E ε Nat := Program.ask .draw fun n => ended (.value n.val)

/-- A task whose failure is a value.  A panic stays a panic. -/
def attempt (t : Task E ε α) : Task E ε' (Except ε α) :=
  Program.bind t fun
    | .value a => ended (.value (.ok a))
    | .failed e => ended (.value (.error e))
    | .panicked p => ended (.panicked p)

/-- A task with its errors put in other terms. -/
def mapError (f : ε → ε') (t : Task E ε α) : Task E ε' α :=
  Program.bind t fun
    | .value a => ended (.value a)
    | .failed e => ended (.failed (f e))
    | .panicked p => ended (.panicked p)

/-- A task whose ending is a value, whatever it is.  Only a fatal panic goes
through. -/
def ending (t : Task E ε α) : Task E Empty (Ending ε α) :=
  Program.bind t fun
    | .panicked .fatal => ended (.panicked .fatal)
    | e => ended (.value e)

/-- A session call in a page: a failed call ends the page. -/
def callOrStop (c : Call E) : Task E RunError c.Reply := (call c).mapError RunError.ofBrowser

end Task

end BrowserSuite
