import BrowserSuite.Engine.Clock
import BrowserSuite.Engine.Task

/-!
# Bounded polling

Element look-ups, clicks, selections and frame switches are tried again while
they fail with a transient error.  Between two attempts the poll interval
passes, or what is left of the timeout if that is less, so that the last
attempt is made at the deadline.  Any other error is final.  No pause ends after
the deadline, so none of them is too long for the clock.

A deadline has to be a time that the clock can hold: to set one beyond it is a
panic.  So no policy has a timeout that the clock cannot hold, and a wait has to
begin so early that its deadline is one too.  The loop does not ask for that;
what is said about its course does.

With a poll interval of at least one millisecond, an attempt that fails before
the deadline brings the deadline nearer by the interval, so that
`⌈timeout / poll⌉ + 1` attempts are always enough; that number is the bound of
the loop.  Without a poll interval, attempts that take no time would be made for
ever; they are followed `2 ^ 32` times and then taken for a timeout.  The
counter of the attempts has 32 bits and shows in nothing but a trace, where it
wraps around; that a build with overflow checks panics there is left out.
-/

namespace BrowserSuite

/-- How long to go on trying, and how long to pause between attempts, in
milliseconds.  Both are configured in whole seconds or milliseconds.  A fraction
of a millisecond would count as a whole one, because attempts begin and end at
whole milliseconds. -/
structure WaitPolicy where
  timeout : Nat
  poll : Nat
  inRange : Clock.InRange timeout
  deriving DecidableEq, Repr

namespace WaitPolicy

variable {E α : Type}

/-- The policy that applies where none is configured. -/
def standard : WaitPolicy := ⟨30000, 500, by decide⟩

instance : Inhabited WaitPolicy := ⟨standard⟩

/-- How many attempts are made at most.  Without a pause between attempts they are
followed as far as their counter goes. -/
def maxAttempts (p : WaitPolicy) : Nat :=
  if p.poll = 0 then Nat.pow 2 32 else (p.timeout + p.poll - 1) / p.poll + 1

/-- Tries an operation up to so many times. -/
def attempts (p : WaitPolicy) (operation : Task E BrowserError α) (awaited : String)
    (deadline : Nat) : Nat → Task E RunError α
  | 0 => Task.fail (.timeout awaited)
  | n + 1 => do
    match ← operation.attempt with
    | .ok a => pure a
    | .error e =>
      if e.isTransient then do
        let now ← Task.now
        if deadline ≤ now then Task.fail (.timeout awaited)
        else do
          Task.sleepUntil (min (now + p.poll) deadline)
          attempts p operation awaited deadline n
      else Task.fail (RunError.ofBrowser e)

/-- Tries an operation until it succeeds, fails for good, or the timeout has
passed. -/
def wait (p : WaitPolicy) (operation : Task E BrowserError α) (awaited : String) :
    Task E RunError α := do
  let start ← Task.now
  attempts p operation awaited (start + p.timeout) p.maxAttempts

end WaitPolicy

end BrowserSuite
