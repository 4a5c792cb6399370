import BrowserSuite.UiMap.Suite

/-!
# The suite queue

The suites that no worker has taken yet, in the order in which they will be
handed out.  Every suite is handed out at most once.
-/

namespace BrowserSuite

/-- The suites that no worker has taken yet. -/
structure SuiteQueue where
  suites : List Suite
  deriving DecidableEq, Repr, Inhabited

namespace SuiteQueue

/-- The number of suites left. -/
def size (q : SuiteQueue) : Nat := q.suites.length

/-- The next suite and the queue without it, unless the queue is empty. -/
def take? (q : SuiteQueue) : Option (Suite × SuiteQueue) :=
  match q.suites with
  | [] => none
  | suite :: rest => some (suite, ⟨rest⟩)

/-- All suites that are left, and the empty queue. -/
def drain (q : SuiteQueue) : List Suite × SuiteQueue := (q.suites, ⟨[]⟩)

theorem size_of_take? {q rest : SuiteQueue} {suite : Suite} (h : q.take? = some (suite, rest)) :
    rest.size < q.size := by
  unfold take? at h
  split at h
  · simp at h
  · rename_i hq
    simp only [Option.some.injEq, Prod.mk.injEq] at h
    simp [size, hq, ← h.2]

end SuiteQueue

end BrowserSuite
