import BrowserSuite.Engine.Worker
import BrowserSuite.Proofs.Program.Path

/-!
# What one step of a worker does

`Does` lists everything that `Desk.step` can do, one constructor for each way a
worker goes on, with the guards under which it does so.  `does_step` is the only
place that looks into `Desk.step`; every invariant of the pool is proved along
`Does`.

Most steps leave the queue and the results alone.  `Shift` is the coarser view
for the invariants that follow a suite from the queue to its result: a step is
quiet, answers one request of a suite run, takes a suite, finishes one, or loses
one.
-/

namespace BrowserSuite

namespace Phase

/-- The suite that a worker is running. -/
def suite? : Phase → Option Suite
  | running suite _ => some suite
  | _ => none

theorem running_of_suite? {p : Phase} {suite : Suite} (h : p.suite? = some suite) :
    ∃ rest, p = running suite rest := by
  cases p <;> cases h
  exact ⟨_, rfl⟩

/-- The kind and the key of the session call that a worker is about to make. -/
def call? : Phase → Option (String × String)
  | opening => some ("open", "")
  | running _ (.ask (.call c) _) => some (Scripted.opOf c, Scripted.keyOf c)
  | closing => some ("quit", "")
  | _ => none

end Phase

/-- A request that is neither a session call, nor a pause, nor a log entry. -/
def Effect.isLocal {E : Type} : Effect E → Bool
  | .call _ | .sleep _ | .sleepUntil _ | .log _ => false
  | _ => true

theorem message?_of_isLocal {E : Type} {r : Effect E} (reply : r.Reply E) (h : r.isLocal = true) :
    Task.Step.message? (⟨r, reply⟩ : Task.Step E) = none := by
  cases r with
  | log message => simp [Effect.isLocal] at h
  | _ => rfl

namespace Desk

/-- The rule of a call and the site on which the call goes on.  A worker that has
waited for the delay of a rule holds that rule; any other call is counted now. -/
def underWay (d : Desk) (w : Worker) (op key : String) : Option Scripted.Rule × Site :=
  match w.held with
  | some rule => (some rule, d.site)
  | none => d.site.startCall op key

/-- Everything that a step of a worker can do.  When a pause ends is left open. -/
inductive Does (settings : PageSettings) (d : Desk) (w : Worker) : Desk → Worker → Prop
  | waits {op key : String} {rule : Scripted.Rule} {site : Site} {turns wake turn : Nat}
      (hcall : w.phase.call? = some (op, key)) (hheld : w.held = none)
      (hstart : d.site.startCall op key = (some rule, site)) (hdelay : 0 < rule.delay) :
      Does settings d w { d with site := site, turns := turns }
        { w with held := some rule, wake := wake, turn := turn }
  | opens {rule : Option Scripted.Rule} {site site' : Site} (hphase : w.phase = .opening)
      (hway : d.underWay w "open" "" = (rule, site))
      (hreply : site.endCall rule (·.openSession) = (.value (), site')) :
      Does settings d w { d with site := site' } { w with phase := .idle, held := none }
  | refused {rule : Option Scripted.Rule} {site site' : Site} {reply : Ending BrowserError Unit}
      (hphase : w.phase = .opening) (hway : d.underWay w "open" "" = (rule, site))
      (hreply : site.endCall rule (·.openSession) = (reply, site')) (hne : reply ≠ .value ()) :
      Does settings d w { d with site := site' } { w with phase := .ended, held := none }
  | stops (hphase : w.phase = .idle) (hend : d.site.cancelled = true ∨ d.queue.suites = []) :
      Does settings d w d { w with phase := .closing }
  | takes {suite : Suite} {rest : List Suite} (hphase : w.phase = .idle)
      (hgo : d.site.cancelled = false) (hqueue : d.queue.suites = suite :: rest) :
      Does settings d w { d with queue := ⟨rest⟩ }
        { w with phase := .running suite (suite.run settings) }
  | calls {suite : Suite} {c : Call Handle} {next : Ending BrowserError c.Reply → _}
      {rule : Option Scripted.Rule} {site site' : Site} {reply : Ending BrowserError c.Reply}
      (hphase : w.phase = .running suite (.ask (.call c) next))
      (hway : d.underWay w (Scripted.opOf c) (Scripted.keyOf c) = (rule, site))
      (hreply : site.endCall rule (·.perform c) = (reply, site')) :
      Does settings d w { d with site := site' }
        { w with phase := .running suite (next reply), held := none }
  | sleeps {suite : Suite} {ms : Nat} {next : Unit → _} {turns wake turn : Nat}
      (hphase : w.phase = .running suite (.ask (.sleep ms) next)) :
      Does settings d w { d with turns := turns }
        { w with phase := .running suite (next ()), wake := wake, turn := turn }
  | sleepsUntil {suite : Suite} {time : Nat} {next : Unit → _} {turns wake turn : Nat}
      (hphase : w.phase = .running suite (.ask (.sleepUntil time) next)) :
      Does settings d w { d with turns := turns }
        { w with phase := .running suite (next ()), wake := wake, turn := turn }
  | writes {suite : Suite} {message : String} {next : Unit → _}
      (hphase : w.phase = .running suite (.ask (.log message) next)) :
      Does settings d w (d.write suite.name message)
        { w with phase := .running suite (next ()) }
  | asks {suite : Suite} {r : Effect Handle} {next : r.Reply Handle → _} {reply : r.Reply Handle}
      {world : World} (hphase : w.phase = .running suite (.ask r next)) (hlocal : r.isLocal = true)
      (hreply : World.answer ⟨d.site, w.store, []⟩ r = (reply, world)) :
      Does settings d w { d with site := world.site }
        { w with phase := .running suite (next reply), store := world.store }
  | finishes {suite : Suite} {run : SuiteRun}
      (hphase : w.phase = .running suite (.done (.value run))) :
      Does settings d w { d with finished := d.finished ++ [run.result] }
        { w with phase := if run.fatal.isSome then .closing else .idle }
  | dies {suite : Suite} {p : Panic} (hphase : w.phase = .running suite (.done (.panicked p))) :
      Does settings d w d { w with phase := .ended }
  | closes {rule : Option Scripted.Rule} {site site' : Site} {reply : Ending BrowserError Unit}
      (hphase : w.phase = .closing) (hway : d.underWay w "quit" "" = (rule, site))
      (hreply : site.endCall rule (·.perform .quit) = (reply, site')) :
      Does settings d w { d with site := site' } { w with phase := .ended, held := none }

variable {settings : PageSettings} {d e : Desk} {w v : Worker}

/-- A session call waits for the delay of its rule, or it goes on at once. -/
theorem does_withRule {op key : String} {proceed : Desk → Option Scripted.Rule → Desk × Phase}
    (hcall : w.phase.call? = some (op, key))
    (hproceed : ∀ rule site, d.underWay w op key = (rule, site) →
      Does settings d w (proceed { d with site := site } rule).1
        { w with phase := (proceed { d with site := site } rule).2, held := none }) :
    Does settings d w (d.withRule w op key proceed).1 (d.withRule w op key proceed).2 := by
  unfold withRule
  unfold underWay at hproceed
  cases hheld : w.held with
  | some rule => exact hproceed (some rule) d.site (by rw [hheld])
  | none =>
      rcases hstart : d.site.startCall op key with ⟨rule, site⟩
      by_cases hdelay : 0 < ruleDelay rule
      · cases rule with
        | none => simp [ruleDelay] at hdelay
        | some rule =>
            simp only [if_pos hdelay]
            exact .waits hcall hheld hstart hdelay
      · simp only [if_neg hdelay]
        exact hproceed rule site (by rw [hheld]; exact hstart)

/-- Every step of a worker that has not ended is one of those listed. -/
theorem does_step (settings : PageSettings) (d : Desk) (w : Worker) (h : w.phase ≠ .ended) :
    Does settings d w (d.step settings w).1 (d.step settings w).2 := by
  -- one case for each equation of `step`, in their order
  unfold step
  split
  case _ hphase =>
    refine does_withRule (by rw [hphase]; rfl) fun rule site hway => ?_
    rcases hreply : site.endCall rule (·.openSession) with ⟨reply, site'⟩
    cases reply with
    | value u =>
        simp only [endCall, hreply]
        exact .opens hphase hway hreply
    | failed e | panicked p =>
        simp only [endCall, hreply]
        exact .refused hphase hway hreply (by simp)
  case _ hphase =>
    cases hcancelled : d.site.cancelled with
    | true => exact .stops hphase (.inl hcancelled)
    | false =>
        cases hqueue : d.queue.suites with
        | nil =>
            simp only [SuiteQueue.take?, hqueue, Bool.false_eq_true, if_false]
            exact .stops hphase (.inr hqueue)
        | cons suite rest =>
            simp only [SuiteQueue.take?, hqueue, Bool.false_eq_true, if_false]
            exact .takes hphase hcancelled hqueue
  case _ hphase => exact .finishes hphase
  case _ hphase => exact .dies hphase
  case _ suite c next hphase =>
    refine does_withRule (by rw [hphase]; rfl) fun rule site hway => ?_
    rcases hreply : site.endCall rule (·.perform c) with ⟨reply, site'⟩
    simp only [endCall, hreply]
    exact .calls hphase hway hreply
  case _ suite ms next hphase =>
    by_cases hms : ms = 0
    · simp only [if_pos hms]
      exact .sleeps hphase
    · simp only [if_neg hms]
      exact .sleeps hphase
  case _ suite time next hphase =>
    by_cases htime : time ≤ d.site.clock
    · simp only [if_pos htime]
      exact .sleepsUntil hphase
    · simp only [if_neg htime]
      exact .sleepsUntil hphase
  case _ hphase => exact .writes hphase
  case _ suite r next hcall hsleep huntil hlog hphase =>
    refine .asks hphase ?_ rfl
    -- the requests with an equation of their own cannot come here
    cases r with
    | call c => exact (hcall c next rfl HEq.rfl).elim
    | sleep ms => exact (hsleep ms next rfl HEq.rfl).elim
    | sleepUntil time => exact (huntil time next rfl HEq.rfl).elim
    | log message => exact (hlog message next rfl HEq.rfl).elim
    | now | isCancelled | frameBound | readStore | setVariable | draw => rfl
  case _ hphase =>
    refine does_withRule (by rw [hphase]; rfl) fun rule site hway => ?_
    rcases hreply : site.endCall rule (·.perform .quit) with ⟨reply, site'⟩
    simp only [endCall, hreply]
    exact .closes hphase hway hreply
  case _ hphase => exact absurd hphase h

theorem does_of_step (hlive : w.phase ≠ .ended) (hstep : d.step settings w = (e, v)) :
    Does settings d w e v := by
  have hdoes := does_step settings d w hlive
  rwa [hstep] at hdoes

/-! ## A suite run -/

/-- A request that is not a session call is answered as it would be in a world of its own. -/
theorem Does.answer (h : Does settings d w e v) {suite : Suite} {r : Effect Handle}
    {next : r.Reply Handle → Task Handle Empty SuiteRun}
    (hphase : w.phase = .running suite (.ask r next)) (hr : ∀ c, r ≠ .call c) :
    ∃ reply world, World.answer ⟨d.site, w.store, []⟩ r = (reply, world) ∧
      v.phase = .running suite (next reply) ∧ v.store = world.store ∧ e.queue = d.queue ∧
      e.log = d.log ++ (Task.Step.message? ⟨r, reply⟩).toList.map
        (⟨d.startedAt.later d.site.clock, suite.name, ·⟩) := by
  cases h with
  | @waits op key _ _ _ _ _ hcall =>
      rw [hphase] at hcall
      cases r <;> first | exact absurd rfl (hr _) | cases hcall
  | opens hp | refused hp | stops hp | takes hp | finishes hp | dies hp | closes hp =>
      rw [hphase] at hp
      cases hp
  | calls hp =>
      rw [hphase] at hp
      cases hp
      exact absurd rfl (hr _)
  | sleeps hp | sleepsUntil hp | writes hp =>
      rw [hphase] at hp
      cases hp
      exact ⟨(), _, rfl, rfl, rfl, rfl, by simp [Task.Step.message?, write]⟩
  | asks hp hlocal hreply =>
      rw [hphase] at hp
      cases hp
      exact ⟨_, _, hreply, rfl, rfl, rfl, by simp [message?_of_isLocal _ hlocal]⟩

/-- A suite run that has come to its result is finished. -/
theorem Does.finish (h : Does settings d w e v) {suite : Suite} {run : SuiteRun}
    (hphase : w.phase = .running suite (.done (.value run))) :
    v.phase = (if run.fatal.isSome then .closing else .idle) ∧ v.store = w.store ∧
      e.queue = d.queue ∧ e.log = d.log := by
  cases h with
  | waits hcall =>
      rw [hphase] at hcall
      cases hcall
  | finishes hp =>
      rw [hphase] at hp
      cases hp
      exact ⟨rfl, rfl, rfl, rfl⟩
  | opens hp | refused hp | stops hp | takes hp | calls hp | sleeps hp | sleepsUntil hp
  | writes hp | asks hp | dies hp | closes hp =>
      rw [hphase] at hp
      cases hp

/-! ## The way of a suite -/

/-- What a step changes in the queue, the results and the log, seen with the
phases of its worker before and after it. -/
inductive Shift (settings : PageSettings) (d : Desk) : Phase → Desk → Phase → Prop
  | quiet {e : Desk} {p q : Phase} (hqueue : e.queue = d.queue)
      (hfinished : e.finished = d.finished) (hlog : e.log = d.log)
      (hphase : q = p ∨ p.suite? = none ∧ q.suite? = none) :
      Shift settings d p e q
  | answers {e : Desk} {suite : Suite} {r : Effect Handle} {next : r.Reply Handle → _}
      (reply : r.Reply Handle) (hqueue : e.queue = d.queue) (hfinished : e.finished = d.finished)
      (hlog : e.log = d.log ++ (Task.Step.message? ⟨r, reply⟩).toList.map
        (⟨d.startedAt.later d.site.clock, suite.name, ·⟩)) :
      Shift settings d (.running suite (.ask r next)) e (.running suite (next reply))
  | takes {e : Desk} {suite : Suite} {rest : List Suite} (hsuites : d.queue.suites = suite :: rest)
      (hqueue : e.queue = ⟨rest⟩) (hfinished : e.finished = d.finished) (hlog : e.log = d.log) :
      Shift settings d .idle e (.running suite (suite.run settings))
  | finishes {e : Desk} {q : Phase} {suite : Suite} {run : SuiteRun} (hqueue : e.queue = d.queue)
      (hfinished : e.finished = d.finished ++ [run.result]) (hlog : e.log = d.log)
      (hphase : q.suite? = none) :
      Shift settings d (.running suite (.done (.value run))) e q
  | loses {e : Desk} {suite : Suite} {p : Panic} (hqueue : e.queue = d.queue)
      (hfinished : e.finished = d.finished) (hlog : e.log = d.log) :
      Shift settings d (.running suite (.done (.panicked p))) e .ended

/-- An answer that writes nothing leaves the log as it is. -/
theorem shift_answers {suite : Suite} {r : Effect Handle} {next : r.Reply Handle → _}
    (reply : r.Reply Handle) (hqueue : e.queue = d.queue) (hfinished : e.finished = d.finished)
    (hlog : e.log = d.log) (hsilent : Task.Step.message? (⟨r, reply⟩ : Task.Step Handle) = none) :
    Shift settings d (.running suite (.ask r next)) e (.running suite (next reply)) :=
  .answers reply hqueue hfinished (by rw [hsilent, hlog]; simp)

theorem Does.shift (h : Does settings d w e v) : Shift settings d w.phase e v.phase := by
  cases h with
  | waits => exact .quiet rfl rfl rfl (.inl rfl)
  | opens hphase | refused hphase | stops hphase | closes hphase =>
      exact .quiet rfl rfl rfl (.inr ⟨by rw [hphase]; rfl, rfl⟩)
  | takes hphase _ hqueue =>
      rw [hphase]
      exact .takes hqueue rfl rfl rfl
  | calls hphase | sleeps hphase | sleepsUntil hphase =>
      rw [hphase]
      exact shift_answers _ rfl rfl rfl rfl
  | writes hphase =>
      rw [hphase]
      exact .answers (r := .log _) () rfl rfl rfl
  | asks hphase hlocal =>
      rw [hphase]
      exact shift_answers _ rfl rfl rfl (message?_of_isLocal _ hlocal)
  | finishes hphase =>
      rw [hphase]
      exact .finishes rfl rfl rfl (by split <;> rfl)
  | dies hphase =>
      rw [hphase]
      exact .loses rfl rfl rfl

end Desk

end BrowserSuite
