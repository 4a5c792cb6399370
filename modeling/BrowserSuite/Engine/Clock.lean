import BrowserSuite.Ending
import BrowserSuite.Number.Reading

/-!
# Time

Time is counted in whole milliseconds.  A pause ends at the first whole
millisecond at which it is over.  A clock holds no more than a signed 64-bit
number of seconds; a pause that would end beyond it lasts thirty years instead,
and a deadline beyond it cannot be set.
-/

namespace BrowserSuite.Clock

/-- A time that the clock can hold. -/
def InRange (time : Nat) : Prop := time / 1000 < Nat.pow 2 63

instance (time : Nat) : Decidable (InRange time) := Nat.decLt _ _

/-- Thirty years of 365 days, in milliseconds. -/
def thirtyYears : Nat := 30 * 365 * 24 * 60 * 60 * 1000

/-- When a pause of some milliseconds ends that begins at `now`. -/
def after (now ms : Nat) : Nat :=
  if InRange (now + ms) then now + ms else now + thirtyYears

/-- The whole milliseconds that a pause takes whose milliseconds are written as
a double: its seconds are rounded to nanoseconds, and these up to milliseconds.
There is none for `2 ^ 64` seconds and more. -/
def pauseOf (ms : Number.Binary64) : Option Nat := do
  let seconds ← ms.divNat 1000
  let (num, den) := seconds.magnitude
  let nanoseconds := Number.roundDiv (num * Nat.pow 10 9) den
  if nanoseconds < Nat.pow 2 64 * Nat.pow 10 9 then some ((nanoseconds + 999999) / 1000000)
  else none

/-- The panic of a pause that is too long to be counted. -/
def pauseTooLong : Panic :=
  .text "cannot convert float seconds to Duration: value is either too big or NaN"

/-- The panic of a deadline that the clock cannot hold. -/
def deadlineTooLate : Panic := .text "overflow when adding duration to instant"

end BrowserSuite.Clock
