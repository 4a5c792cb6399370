/-!
# Endings

How something that was asked for ends: with a value, with an error of its own,
or with a panic.  A panic is not an error: it is a fault of the program or of
the session, it cuts short whatever is running, and it is told apart from an
error wherever one of them is handled.
-/

namespace BrowserSuite

/-- What a panic carries.  A fatal one is not stopped at the end of a page but
takes the whole worker with it. -/
inductive Panic where
  | text (message : String)
  | other
  | fatal
  deriving DecidableEq, Repr

/-- A panic in words. -/
def Panic.message : Panic → String
  | text m => m
  | other | fatal => "unknown panic"

/-- How a task or a session call ends. -/
inductive Ending (ε α : Type) where
  | value (a : α)
  | failed (e : ε)
  | panicked (p : Panic)
  deriving DecidableEq, Repr

end BrowserSuite
