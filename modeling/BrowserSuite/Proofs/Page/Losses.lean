import BrowserSuite.Engine.SuiteRun
import BrowserSuite.Proofs.Browser.Panics

/-!
# What becomes of a lost session

A call answered with a lost session ends the page with it: no error handling of a page
goes on after one, and nothing else ends a page in this way.  The one place where this
fails is the end of a frame search.  A search that has failed still sends the session back
to the document, and it reports its own failure and not that of this last call; so a
session that is lost there goes unnoticed, and if the search failed with a transient error,
it is even repeated.

A path `Reveals` a loss if some call was answered with it, other than the call that follows
a failed search.  `run_page_lost_iff` says that this is exactly when the page ends with
that loss, on every browser that does not panic.

The exception makes the statement one about positions in a path.  To cut a path in two
without losing sight of it, the first part must be `Closed`: no search may have begun in it
that goes on in the second part.
-/

namespace BrowserSuite

/-- With which detail an ending says that the session is lost. -/
def Ending.loss? {ε α : Type} (loss : ε → Option String) : Ending ε α → Option String
  | failed e => loss e
  | _ => none

theorem RunError.loss?_eq_some_iff {α : Type} {x : Ending RunError α} {d : String} :
    x.loss? RunError.loss? = some d ↔ x = .failed (.session d) := by
  constructor
  · intro h
    cases x with
    | failed e => cases e <;> cases h; rfl
    | _ => cases h
  · rintro rfl
    rfl

namespace Task

open FrameSearch (scan)

variable {E : Type} {steps first rest : List (Step E)} {d : String}

/-! ## Losses on a path -/

/-- With which detail a call was answered that the session is lost. -/
def Step.loss? (s : Step E) : Option String :=
  match s with
  | ⟨.call _, .failed e⟩ => e.loss?
  | _ => none

/-- A path on which no call panics. -/
def Quiet (steps : List (Step E)) : Prop := ∀ s ∈ steps, s.panic? = none

/-- At the end of this path a search of all frames has just failed. -/
def FailedScan (steps : List (Step E)) : Prop :=
  ∃ before l n search e, steps = before ++ ⟨.frameBound, n⟩ :: search ∧
    (scan l (n + 1) []).Ends search (.failed e)

/-- A call of the path was answered with a lost session, and it was not the one that
follows a failed search. -/
def Reveals (steps : List (Step E)) (d : String) : Prop :=
  ∃ before s after, steps = before ++ s :: after ∧ s.loss? = some d ∧ ¬ FailedScan before

/-- No search of the path goes on after it. -/
def Closed (steps : List (Step E)) : Prop :=
  ∀ before n search, steps = before ++ ⟨.frameBound, n⟩ :: search →
    ∀ l more x, ¬ (scan l (n + 1) []).Ends (search ++ more) x

theorem quiet_append : Quiet (first ++ rest) ↔ Quiet first ∧ Quiet rest :=
  List.forall_mem_append

/-- A path on which no search begins. -/
def Unsearched (steps : List (Step E)) : Prop := ∀ s ∈ steps, s.request ≠ .frameBound

theorem Unsearched.closed (h : Unsearched steps) : Closed steps := by
  rintro before n search rfl
  exact absurd rfl (h ⟨.frameBound, n⟩ (by simp))

theorem Unsearched.not_failedScan (h : Unsearched steps) : ¬ FailedScan steps := by
  rintro ⟨before, l, n, search, e, rfl, -⟩
  exact h ⟨.frameBound, n⟩ (by simp) rfl

theorem Unsearched.reveals_iff (h : Unsearched steps) :
    Reveals steps d ↔ ∃ s ∈ steps, s.loss? = some d := by
  constructor
  · rintro ⟨before, s, after, rfl, hs, -⟩
    exact ⟨s, by simp, hs⟩
  · rintro ⟨s, hmem, hs⟩
    obtain ⟨before, after, rfl⟩ := List.append_of_mem hmem
    refine ⟨before, s, after, rfl, hs, Unsearched.not_failedScan fun s' hs' => ?_⟩
    exact h s' (List.mem_append_left _ hs')

/-- Where a search begins on a path of two parts. -/
theorem append_eq_cut {before search : List (Step E)} {s : Step E}
    (h : first ++ rest = before ++ s :: search) :
    (∃ tail, first = before ++ s :: tail ∧ search = tail ++ rest) ∨
      ∃ head, before = first ++ head ∧ rest = head ++ s :: search := by
  rcases List.append_eq_append_iff.mp h with ⟨head, rfl, hrest⟩ | ⟨tail, rfl, htail⟩
  · exact .inr ⟨head, rfl, hrest⟩
  · cases tail with
    | nil => exact .inr ⟨[], by simp, by simpa using htail.symm⟩
    | cons s' tail =>
        obtain ⟨rfl, rfl⟩ := List.cons_eq_cons.mp htail
        exact .inl ⟨tail, rfl, rfl⟩

/-- Where a search begins on a path on which only one does. -/
theorem cons_eq_cut {before search search' : List (Step E)} {s : Step E} {n n' : Nat}
    (hs : s.request ≠ .frameBound) (hsearch : Unsearched search)
    (h : s :: ⟨.frameBound, n⟩ :: search = before ++ ⟨.frameBound, n'⟩ :: search') :
    search' = search ∧ n' = n := by
  cases before with
  | nil =>
      obtain ⟨rfl, -⟩ := List.cons_eq_cons.mp h
      exact absurd rfl hs
  | cons _ before =>
      cases before with
      | nil =>
          cases (List.cons_eq_cons.mp h).2
          exact ⟨rfl, rfl⟩
      | cons _ before =>
          obtain ⟨-, rfl⟩ := List.cons_eq_cons.mp (List.cons_eq_cons.mp h).2
          exact absurd rfl (hsearch ⟨.frameBound, n'⟩ (by simp))

theorem Closed.append (hfirst : Closed first) (hrest : Closed rest) : Closed (first ++ rest) := by
  intro before n search h l more x
  rcases append_eq_cut h with ⟨tail, hcut, rfl⟩ | ⟨head, -, hcut⟩
  · rw [List.append_assoc]
    exact hfirst before n tail hcut l _ x
  · exact hrest head n search hcut l more x

/-- After a closed path, a search that has failed began later. -/
theorem Closed.failedScan_append_iff (hfirst : Closed first) :
    FailedScan (first ++ rest) ↔ FailedScan rest := by
  constructor
  · rintro ⟨before, l, n, search, e, h, hscan⟩
    rcases append_eq_cut h with ⟨tail, hcut, rfl⟩ | ⟨head, -, hcut⟩
    · exact absurd hscan (hfirst before n tail hcut l rest _)
    · exact ⟨head, l, n, search, e, hcut, hscan⟩
  · rintro ⟨before, l, n, search, e, rfl, hscan⟩
    exact ⟨first ++ before, l, n, search, e, by simp, hscan⟩

/-- After a closed path, what is revealed is revealed by one of the two parts. -/
theorem Closed.reveals_append_iff (hfirst : Closed first) :
    Reveals (first ++ rest) d ↔ Reveals first d ∨ Reveals rest d := by
  constructor
  · rintro ⟨before, s, after, h, hs, hscan⟩
    rcases append_eq_cut h with ⟨tail, hcut, -⟩ | ⟨head, rfl, hcut⟩
    · exact .inl ⟨before, s, tail, hcut, hs, hscan⟩
    · refine .inr ⟨head, s, after, hcut, hs, fun hhead => ?_⟩
      exact hscan (hfirst.failedScan_append_iff.mpr hhead)
  · rintro (⟨before, s, after, rfl, hs, hscan⟩ | ⟨before, s, after, rfl, hs, hscan⟩)
    · exact ⟨before, s, after ++ rest, by simp, hs, hscan⟩
    · exact ⟨first ++ before, s, after, by simp, hs,
        fun h => hscan (hfirst.failedScan_append_iff.mp h)⟩

/-! ## Tasks that tell of every loss -/

/-- Along every path without a panic, no search is left open, and the task ends with a loss
if and only if the path reveals it. -/
def Tells {ε α : Type} (loss : ε → Option String) (t : Task E ε α) : Prop :=
  ∀ steps x, t.Ends steps x → Quiet steps →
    Closed steps ∧ ∀ d, Reveals steps d ↔ x.loss? loss = some d

namespace Tells

variable {ε ε' α β : Type} {loss : ε → Option String} {loss' : ε' → Option String}

theorem ended {x : Ending ε α} (hx : x.loss? loss = none) :
    Tells loss (Task.ended x : Task E ε α) := by
  intro steps y h _
  obtain ⟨rfl, rfl⟩ := ends_ended_iff.mp h
  have hnone : Unsearched ([] : List (Step E)) := List.forall_mem_nil _
  exact ⟨hnone.closed, fun d => by simp [hnone.reveals_iff, hx]⟩

theorem pure (a : α) : Tells loss (Pure.pure a : Task E ε α) := ended rfl

theorem fail {e : ε} (he : loss e = none) : Tells loss (Task.fail e : Task E ε α) := ended he

/-- A request that is not made of the session reveals nothing. -/
theorem ask {r : Effect E} (hcall : ∀ c, r ≠ .call c) (hbound : r ≠ .frameBound)
    (value : r.Reply E → α) :
    Tells loss (Program.ask r fun reply => Task.ended (.value (value reply)) : Task E ε α) := by
  intro steps x h _
  obtain ⟨reply, rfl, rfl⟩ := ends_ask_value h
  have hone : Unsearched [(⟨r, reply⟩ : Step E)] := List.forall_mem_singleton.mpr hbound
  have hloss : Step.loss? (⟨r, reply⟩ : Step E) = none := by
    cases r <;> first | rfl | exact absurd rfl (hcall _)
  exact ⟨hone.closed, fun d => by simp [hone.reveals_iff, hloss, Ending.loss?]⟩

theorem call (c : Call E) : Tells BrowserError.loss? (Task.call c) := by
  intro steps x h _
  obtain rfl := ends_call_iff.mp h
  have hone : Unsearched [(⟨.call c, x⟩ : Step E)] := by simp [Unsearched]
  refine ⟨hone.closed, fun d => ?_⟩
  cases x <;> simp [hone.reveals_iff, Step.loss?, Ending.loss?]

/-- What the second part reveals comes after all of the first, which has told of no loss. -/
theorem bind {t : Task E ε α} {f : α → Task E ε β} (ht : Tells loss t)
    (hf : ∀ a, Tells loss (f a)) : Tells loss (t >>= f) := by
  intro steps x h hquiet
  rcases ends_bind_cases h with ⟨first, rest, a, rfl, hfirst, hrest⟩ | ⟨e, rfl, hfail⟩ |
    ⟨p, rfl, hpanic⟩
  · obtain ⟨hquiet, hquiet'⟩ := quiet_append.mp hquiet
    obtain ⟨hclosed, hreveals⟩ := ht _ _ hfirst hquiet
    obtain ⟨hclosed', hreveals'⟩ := hf a _ _ hrest hquiet'
    refine ⟨hclosed.append hclosed', fun d => ?_⟩
    rw [hclosed.reveals_append_iff, hreveals, hreveals']
    simp [Ending.loss?]
  · exact ht _ _ hfail hquiet
  · exact ht _ _ hpanic hquiet

theorem mapError {t : Task E ε α} {g : ε → ε'} (hg : ∀ e, loss' (g e) = loss e)
    (ht : Tells loss t) : Tells loss' (t.mapError g) := by
  intro steps x h hquiet
  obtain ⟨y, hy, rfl⟩ := ends_mapError_iff.mp h
  have hloss : (y.mapError g).loss? loss' = y.loss? loss := by
    cases y with
    | failed e => exact hg e
    | _ => rfl
  rw [hloss]
  exact ht _ _ hy hquiet

/-- Handling the failures of a task hides no loss if a loss is handed on. -/
theorem trying {t : Task E BrowserError α} {f : Except BrowserError α → Task E ε β}
    (ht : Tells BrowserError.loss? t) (hok : ∀ a, Tells loss (f (.ok a)))
    (herror : ∀ e : BrowserError, e.loss? = none → Tells loss (f (.error e)))
    {lost : String → ε} (hlost : ∀ d, f (.error (.session d)) = Task.fail (lost d))
    (hloss : ∀ d, loss (lost d) = some d) : Tells loss (t.attempt >>= f) := by
  intro steps x h hquiet
  rcases ends_attempt_bind_cases h with ⟨first, rest, y, r, rfl, hfirst, hr, hrest⟩ |
    ⟨p, rfl, hpanic⟩
  · obtain ⟨hquiet, hquiet'⟩ := quiet_append.mp hquiet
    obtain ⟨hclosed, hreveals⟩ := ht _ _ hfirst hquiet
    -- a failure that may be handled: as in `bind`
    have hgoes : y.loss? BrowserError.loss? = none → Tells loss (f r) →
        Closed (first ++ rest) ∧ ∀ d, Reveals (first ++ rest) d ↔ x.loss? loss = some d := by
      intro hnone hf
      obtain ⟨hclosed', hreveals'⟩ := hf _ _ hrest hquiet'
      refine ⟨hclosed.append hclosed', fun d => ?_⟩
      rw [hclosed.reveals_append_iff, hreveals, hreveals', hnone]
      simp
    cases y with
    | value a =>
        cases hr
        exact hgoes rfl (hok a)
    | panicked p => cases hr
    | failed e =>
        cases hr
        by_cases he : e.loss? = none
        · exact hgoes he (herror e he)
        · -- a loss: nothing is done after it
          cases e with
          | session d =>
              rw [hlost d] at hrest
              obtain ⟨rfl, rfl⟩ := ends_ended_iff.mp hrest
              rw [List.append_nil]
              refine ⟨hclosed, fun d' => (hreveals d').trans ?_⟩
              simp [Ending.loss?, hloss, BrowserError.loss?]
          | _ => exact absurd rfl he
  · exact ht _ _ hpanic hquiet

end Tells

end Task

/-! ## The search of all frames -/

namespace FrameSearch

variable {E : Type} {l l' : Locator} {n : Nat} {steps more : List (Task.Step E)}

/-- A search begins with a look-up in the document. -/
theorem head_of_ends_scan {path : List E} {x : Ending BrowserError (Option (FrameMatch E))}
    (h : (scan l (n + 1) path).Ends steps x) :
    ∃ reply rest, steps = ⟨.call (.find l), reply⟩ :: rest := by
  obtain ⟨reply, rest, rfl, -⟩ := Program.leads_ask_done_iff.mp h
  exact ⟨reply, rest, rfl⟩

/-- A search that is over does not go on, nor does one for another element go the same
way. -/
theorem scan_eq_of_append {x y : Ending BrowserError (Option (FrameMatch E))}
    (h : (scan l (n + 1) []).Ends steps x) (h' : (scan l' (n + 1) []).Ends (steps ++ more) y) :
    more = [] ∧ y = x := by
  obtain ⟨reply, rest, rfl⟩ := head_of_ends_scan h
  obtain ⟨_, _, hhead⟩ := head_of_ends_scan h'
  cases hhead
  exact h.eq_of_append h'

/-- How a search ends, from how the look into the frames and the way back have ended. -/
def outcome {α : Type} : Ending BrowserError α → Ending BrowserError Unit → Ending BrowserError α
  | .failed e, _ => .failed e
  | .panicked p, _ => .panicked p
  | .value a, .value _ => .value a
  | .value _, .failed e => .failed e
  | .value _, .panicked p => .panicked p

/-- The path of a search until the session is sent back to the document. -/
def looking (n : Nat) (search : List (Task.Step E)) : List (Task.Step E) :=
  ⟨.call .switchToDefault, .value ()⟩ :: ⟨.frameBound, n⟩ :: search

/-- The paths of a search on which no call panics. -/
theorem find_cases {x : Ending BrowserError (Option (FrameMatch E))}
    (h : (find l).Ends steps x) (hquiet : Task.Quiet steps) :
    (∃ e, steps = [⟨.call .switchToDefault, .failed e⟩] ∧ x = .failed e) ∨
      ∃ n search y reset,
        steps = looking n search ++ [⟨.call .switchToDefault, reset⟩] ∧
        (scan l (n + 1) []).Ends search y ∧ (∀ p, y ≠ .panicked p) ∧ x = outcome y reset := by
  rcases Task.ends_bind_cases h with ⟨first, rest, u, rfl, hfirst, hrest⟩ | ⟨e, rfl, hfail⟩ |
    ⟨p, -, hpanic⟩
  · obtain rfl := Task.ends_call_iff.mp hfirst
    right
    obtain ⟨n, steps, rfl, hsteps⟩ := Program.leads_ask_done_iff.mp hrest
    rcases Task.ends_attempt_bind_cases hsteps with
      ⟨search, rest, y, found, rfl, hsearch, hy, hreset⟩ | ⟨p, rfl, hpanic⟩
    · rcases Task.ends_attempt_bind_cases hreset with ⟨last, rest, reset, r, rfl, hlast, hr, hend⟩ |
        ⟨p, rfl, hpanic⟩
      · obtain rfl := Task.ends_call_iff.mp hlast
        refine ⟨n, search, y, reset, ?_⟩
        cases y with
        | panicked p => cases hy
        | value m | failed e =>
            cases hy
            cases reset with
            | panicked p => cases hr
            | value _ | failed e' =>
                cases hr
                obtain ⟨rfl, rfl⟩ := Task.ends_ended_iff.mp hend
                exact ⟨rfl, hsearch, nofun, rfl⟩
      · obtain rfl := Task.ends_call_iff.mp hpanic
        cases hquiet ⟨.call .switchToDefault, .panicked p⟩ (by simp)
    · rcases (PageRun.probe_scan l (n + 1) []).panicsByCall _ _ hpanic with hfalse | ⟨s, hs, hp⟩
      · exact hfalse.elim
      · cases hp.symm.trans (hquiet s (by simp [hs]))
  · exact .inl ⟨e, Task.ends_call_iff.mp hfail, rfl⟩
  · obtain rfl := Task.ends_call_iff.mp hpanic
    cases hquiet _ (List.mem_singleton_self _)

section

variable {n : Nat} {search : List (Task.Step E)} {d : String}
  {y : Ending BrowserError (Option (FrameMatch E))} {reset : Ending BrowserError Unit}

theorem unsearched_scan (hsearch : (scan l (n + 1) []).Ends search y) : Task.Unsearched search := by
  intro s hs hbound
  obtain ⟨c, hc⟩ := (PageRun.probe_scan l (n + 1) []).asks _ _ hsearch s hs
  cases hc.symm.trans hbound

/-- A search has failed when all of it is over and its ending is a failure. -/
theorem failedScan_looking_iff {part rest : List (Task.Step E)}
    (hsearch : (scan l (n + 1) []).Ends (part ++ rest) y) :
    Task.FailedScan (looking n part) ↔ rest = [] ∧ ∃ e, y = .failed e := by
  have hpart : Task.Unsearched part := fun s hs =>
    unsearched_scan hsearch s (List.mem_append_left _ hs)
  constructor
  · rintro ⟨before, l', n', search', e, hcut, hscan⟩
    obtain ⟨rfl, rfl⟩ := Task.cons_eq_cut (by simp) hpart hcut
    obtain ⟨hrest, hy⟩ := scan_eq_of_append hscan hsearch
    exact ⟨hrest, e, hy⟩
  · rintro ⟨rfl, e, rfl⟩
    rw [List.append_nil] at hsearch
    exact ⟨[_], l, n, part, e, rfl, hsearch⟩

/-- A search that is over is not open. -/
theorem closed_find (hsearch : (scan l (n + 1) []).Ends search y) :
    Task.Closed (looking n search ++ [⟨.call .switchToDefault, reset⟩]) := by
  intro before n' search' hcut l' more x hscan
  have hlater : Task.Unsearched (search ++ [⟨.call .switchToDefault, reset⟩]) := by
    refine List.forall_mem_append.mpr ⟨unsearched_scan hsearch, ?_⟩
    simp
  obtain ⟨rfl, rfl⟩ := Task.cons_eq_cut (by simp) hlater hcut
  rw [List.append_assoc] at hscan
  exact absurd (scan_eq_of_append hsearch hscan).1 (by simp)

/-- The losses in a search are those of its calls, except that after a failure the last
call is not heard of. -/
theorem reveals_find_iff (hsearch : (scan l (n + 1) []).Ends search y) :
    Task.Reveals (looking n search ++ [⟨.call .switchToDefault, reset⟩]) d ↔
      (∃ s ∈ search, s.loss? = some d) ∨
        (∀ e, y ≠ .failed e) ∧ reset.loss? BrowserError.loss? = some d := by
  have hfailed : Task.FailedScan (looking n search) ↔ ∃ e, y = .failed e := by
    have hwhole : (scan l (n + 1) []).Ends (search ++ []) y := by rwa [List.append_nil]
    simpa using failedScan_looking_iff hwhole
  have hreset : Task.Step.loss? (⟨.call .switchToDefault, reset⟩ : Task.Step E) =
      reset.loss? BrowserError.loss? := by
    cases reset <;> rfl
  constructor
  · rintro ⟨before, s, after, hsteps, hs, hscan⟩
    rcases Task.append_eq_cut hsteps with ⟨tail, hcut, -⟩ | ⟨head, rfl, hcut⟩
    · -- the first two steps are no losses
      have hmem : s ∈ looking n search := hcut ▸ by simp
      rcases List.mem_cons.mp hmem with rfl | hmem
      · cases hs
      · rcases List.mem_cons.mp hmem with rfl | hmem
        · cases hs
        · exact .inl ⟨s, hmem, hs⟩
    · cases head with
      | nil =>
          cases hcut
          refine .inr ⟨fun e he => hscan ?_, hreset ▸ hs⟩
          simpa using hfailed.mpr ⟨e, he⟩
      | cons s' head =>
          obtain ⟨-, hnil⟩ := List.cons_eq_cons.mp hcut
          simp at hnil
  · rintro (⟨s, hs, hloss⟩ | ⟨hy, hloss⟩)
    · obtain ⟨part, rest, rfl⟩ := List.append_of_mem hs
      refine ⟨looking n part, s, rest ++ [⟨.call .switchToDefault, reset⟩], by simp [looking],
        hloss, ?_⟩
      simp [failedScan_looking_iff hsearch]
    · refine ⟨looking n search, _, [], rfl, hreset.trans hloss, fun h => ?_⟩
      obtain ⟨e, he⟩ := hfailed.mp h
      exact hy e he

end

end FrameSearch

/-! ## Pages -/

namespace PageRun

open BrowserSuite.Task (Tells)

variable {E α : Type}

/-- A probe tells of every loss. -/
theorem Probe.tells {t : Task E BrowserError α} (ht : Probe t) : Tells BrowserError.loss? t := by
  induction ht with
  | pure a => exact .pure a
  | fail e he => exact .fail he
  | call c _ => exact .call c
  | bind _ _ ih ihf => exact .bind ih ihf
  | trying _ _ _ hlost ih ihok iherror => exact .trying ih ihok iherror hlost fun _ => rfl

theorem tells_find (l : Locator) :
    Tells BrowserError.loss?
      (FrameSearch.find l : Task E BrowserError (Option (FrameMatch E))) := by
  intro steps x h hquiet
  rcases FrameSearch.find_cases h hquiet with
    ⟨e, rfl, rfl⟩ | ⟨n, search, y, reset, rfl, hscan, hy, rfl⟩
  · -- the session could not be sent to the document
    exact Tells.call .switchToDefault _ (.failed e) (Task.ends_call_iff.mpr rfl) hquiet
  · obtain ⟨hlooking, -⟩ := Task.quiet_append.mp hquiet
    have hsearch : Task.Quiet search := fun s hs =>
      hlooking s (List.mem_cons_of_mem _ (List.mem_cons_of_mem _ hs))
    refine ⟨FrameSearch.closed_find hscan, fun d => ?_⟩
    have hlosses : (∃ s ∈ search, s.loss? = some d) ↔ y.loss? BrowserError.loss? = some d :=
      (FrameSearch.unsearched_scan hscan).reveals_iff.symm.trans
        (((probe_scan l (n + 1) []).tells _ _ hscan hsearch).2 d)
    rw [FrameSearch.reveals_find_iff hscan, hlosses]
    cases y with
    | value m => cases reset <;> simp [FrameSearch.outcome, Ending.loss?]
    | failed e => simp [FrameSearch.outcome, Ending.loss?]
    | panicked p => exact absurd rfl (hy p)

theorem Attempt.tells {t : Task E BrowserError α} (ht : Attempt t) :
    Tells BrowserError.loss? t := by
  cases ht with
  | probe ht => exact ht.tells
  | seek locator =>
      refine (tells_find locator).bind fun found => ?_
      cases found with
      | some found => exact .pure found
      | none => exact .fail rfl

/-- All that is done for an action tells of every loss that its path reveals. -/
theorem Part.tells {own : Panic → Prop} {t : Task E RunError α} (ht : Part own t) :
    Tells RunError.loss? t := by
  induction ht with
  | pure a => exact .pure a
  | fail e he => exact .fail (RunError.loss?_of_endsWorker he)
  | panic _ => exact .ended rfl
  | plain r hr value =>
      refine .ask ?_ ?_ value
      · rintro c rfl
        cases hr
      · rintro rfl
        cases hr
  | probe ht => exact ht.tells.mapError RunError.loss?_ofBrowser
  | bind _ _ ih ihf => exact .bind ih ihf
  | trying ht _ _ hlost ihok iherror => exact .trying ht.tells ihok iherror hlost fun _ => rfl

theorem tells_runAction (wait : WaitPolicy) (chain : Option (Chain E)) (action : Action) :
    Tells RunError.loss? (runAction wait chain action) := by
  rw [runAction_eq]
  refine .bind (.ask (r := .isCancelled) (by simp) (by simp) id) fun cancelled => ?_
  cases cancelled with
  | true => exact .fail rfl
  | false => exact (part_carryOut wait chain action).tells

theorem tells_runActions (settings : PageSettings) (chain : Option (Chain E))
    (actions : List Action) : Tells RunError.loss? (runActions settings chain actions) := by
  induction actions generalizing chain with
  | nil => exact .pure ()
  | cons action rest ih =>
      exact (tells_runAction settings.wait chain action).bind fun chain =>
        (part_settle settings rest.length).tells.bind fun _ => ih chain

end PageRun

/-- A page on a browser that never panics ends with a lost session exactly when a call is
answered with it that does not follow a failed search; and then the suite fails and the
worker is told of the loss. -/
theorem run_page_lost_iff (settings : PageSettings) (page : Page) (w : World)
    (hrules : ∀ r ∈ w.site.browser.rules, r.panic = none)
    (hquit : w.site.browser.panicsOnQuit = false) (d : String) :
    ((w.run (page.run settings)).1 = .failed (.session d) ↔
        Task.Reveals (w.trace (page.run settings)) d) ∧
      ((w.run (page.run settings)).1 = .failed (.session d) →
        SuiteRun.failure? (w.run (page.run settings)).1 =
          some ((RunError.session d).message, some (RunError.session d))) := by
  have hscript : w.site.browser.PanicsOnlyWith fun _ => False := by
    constructor
    · intro r hr p hp
      cases (hrules r hr).symm.trans hp
    · intro h
      cases hquit.symm.trans h
  have hquiet : Task.Quiet (w.trace (page.run settings)) := by
    intro s hs
    exact Option.eq_none_iff_forall_ne_some.mpr fun p hp =>
      (World.panics_of_trace hscript (page.run settings)).2 s hs p hp
  obtain ⟨-, hreveals⟩ :=
    PageRun.tells_runActions settings none page.actions _ _ (w.ends_trace _) hquiet
  constructor
  · exact RunError.loss?_eq_some_iff.symm.trans (hreveals d).symm
  · intro h
    rw [h]
    rfl

/-- A page with an element in a frame, on a browser that follows some rules. -/
def framed (rules : List Scripted.Rule) : World :=
  let browser := (Scripted.blank.addFrame 0 "f").addElement ⟨"id=x", 1, "", [], [], 0, false, 0⟩
  ⟨.start { browser with rules := rules } none 0, .empty, []⟩

/-- The session is lost when it is sent to the document once more. -/
def goneAfter (times : Nat) : Scripted.Rule :=
  ⟨"default", none, times, some 1, 0, false, none, some (.session "gone")⟩

/-- The document is being loaded again when the first search asks for its frames. -/
def reloading : Scripted.Rule :=
  ⟨"frames", none, 0, some 1, 0, false, none, some (.staleElement "reloading")⟩

/-- A page that searches the frames. -/
def searching : Page := ⟨"p", [⟨"find_frame", ["id", "x"], 1⟩]⟩

/-- The search finds the element, and the loss at its end is told. -/
theorem run_page_lost_iff_gone :
    let settings : PageSettings := ⟨0, 0, ⟨2000, 100, by decide⟩⟩
    Task.Reveals ((framed [goneAfter 2]).trace (searching.run settings)) "gone" ∧
      SuiteRun.failure? ((framed [goneAfter 2]).run (searching.run settings)).1 =
        some ("browser session lost: gone", some (.session "gone")) := by
  intro settings
  have hlost : ((framed [goneAfter 2]).run (searching.run settings)).1 =
      .failed (.session "gone") := by decide +kernel
  obtain ⟨hreveals, hfatal⟩ := run_page_lost_iff settings searching
    (framed [goneAfter 2]) (by decide +kernel) rfl "gone"
  exact ⟨hreveals.mp hlost, hfatal hlost⟩

/-- A loss right after a failed search is masked: the search is repeated and the page is
completed, on a browser that never panics. -/
theorem loss_masked_by_failed_search :
    let settings : PageSettings := ⟨0, 0, ⟨2000, 100, by decide⟩⟩
    (∀ r ∈ [reloading, goneAfter 1], r.panic = none) ∧
      (framed [reloading, goneAfter 1]).site.browser.panicsOnQuit = false ∧
      (∃ s ∈ (framed [reloading, goneAfter 1]).trace (searching.run settings),
        s.loss? = some "gone") ∧
      ((framed [reloading, goneAfter 1]).run (searching.run settings)).1 =
        .value () := by
  decide +kernel

end BrowserSuite
