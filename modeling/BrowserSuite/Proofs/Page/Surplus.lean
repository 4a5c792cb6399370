import BrowserSuite.Proofs.Page.Assignments
import BrowserSuite.Proofs.UiMap.Dispatch

/-!
# Surplus parameters

A command takes its parameters from the front, so what a UI map writes behind them makes no
difference to the instruction (`Action.Padded.instruction_eq`).  It could still be seen: the log
of a debug run shows an action with everything that was written.

Outside of debug runs it cannot.  No action makes a run a debug run, because whatever it stores is
a text or null, and the text `true` is not the value (`Task.flag_assigned`).  So the pages of a
UI map with and without surplus parameters run in lock step, action by action
(`lockStep_runActions`).
-/

namespace BrowserSuite

/-! ## Padded actions -/

/-- The second action is the first one, perhaps with more parameters behind those that its command
needs.  A name that is no command needs none. -/
inductive Action.Padded : Action → Action → Prop
  | same (a : Action) : Padded a a
  | more (a : Action) (extra : List String)
      (h : ∀ c, a.command? = some c → c.arity ≤ a.params.length) :
      Padded a { a with params := a.params ++ extra }

theorem Instruction.ofParams?_append {c : Command} {params : List String}
    (h : c.arity ≤ params.length) (extra : List String) :
    ofParams? c (params ++ extra) = ofParams? c params := by
  rw [← ofParams?_take, List.take_append_of_le_length h, ofParams?_take]

/-- What is left over is dropped. -/
theorem Action.Padded.instruction_eq {a a' : Action} (h : a.Padded a') :
    a'.instruction = a.instruction := by
  cases h with
  | same => rfl
  | more extra h =>
      have hcommand : ({ a with params := a.params ++ extra } : Action).command? = a.command? := rfl
      unfold instruction
      rw [hcommand]
      cases hc : a.command? with
      | none => rfl
      | some c =>
          -- there are enough parameters, so neither action fails for their number
          have henough : (Instruction.ofParams? c a.params).isSome = true := by
            simp [Instruction.isSome_ofParams?, h c hc]
          obtain ⟨i, hi⟩ := Option.isSome_iff_exists.mp henough
          simp only [Instruction.ofParams?_append (h c hc), hi]

/-! ## Runs that cannot be told apart -/

namespace World

variable {ε α β : Type} {w : World} {t t' : Task Handle ε α}

/-- Two tasks do the same in a world: they ask for the same and are answered the same, they end
in the same way, and they leave the same world. -/
structure LockStep (w : World) (t t' : Task Handle ε α) : Prop where
  run : w.run t' = w.run t
  trace : w.trace t' = w.trace t

theorem LockStep.refl (w : World) (t : Task Handle ε α) : LockStep w t t := ⟨rfl, rfl⟩

theorem LockStep.bind {f f' : α → Task Handle ε β} (h : LockStep w t t')
    (hf : ∀ a v, w.run t = (.value a, v) → LockStep v (f a) (f' a)) :
    LockStep w (t >>= f) (t' >>= f') := by
  constructor
  · rw [run_bind, run_bind, h.run]
    rcases hran : w.run t with ⟨a | e | p, v⟩
    · exact (hf a v hran).run
    · rfl
    · rfl
  · rw [trace_bind, trace_bind, h.run, h.trace]
    rcases hran : w.run t with ⟨a | e | p, v⟩
    · exact congrArg _ (hf a v hran).trace
    · rfl
    · rfl

/-- What sets variables to texts and null only does not make a variable true. -/
theorem flag_run {keys : List String} (ht : Task.Asks (Effect.SetsAmong keys) t) {key : String}
    (hkey : w.store.flag key = false) : (w.run t).2.store.flag key = false := by
  rw [store_run]
  exact Task.flag_assigned (ht _ _ (w.ends_trace t)) hkey

end World

/-! ## Pages in lock step -/

namespace PageRun

open World (LockStep)

variable {w : World} {action action' : Action}

/-- Outside of a debug run, no action is announced. -/
theorem lockStep_announce (hdebug : w.store.flag "debug" = false) (action action' : Action) :
    LockStep w (announce action : Task Handle RunError Unit) (announce action') := by
  refine (LockStep.refl w Task.readStore).bind fun store v hstore => ?_
  obtain ⟨rfl, rfl⟩ : w.store = store ∧ w = v := by
    cases hstore
    exact ⟨rfl, rfl⟩
  simp only [hdebug]
  exact .refl _ _

theorem lockStep_runAction (wait : WaitPolicy) (hdebug : w.store.flag "debug" = false)
    (h : action'.instruction = action.instruction) (chain : Option (Chain Handle)) :
    LockStep w (runAction wait chain action) (runAction wait chain action') := by
  rw [runAction_eq, runAction_eq]
  refine (LockStep.refl w Task.isCancelled).bind fun cancelled v hlook => ?_
  obtain rfl : w = v := by
    cases hlook
    rfl
  cases cancelled with
  | true => exact .refl _ _
  | false =>
      refine (lockStep_announce hdebug action action').bind fun _ v _ => ?_
      rw [h]
      exact .refl _ _

/-- Pages whose actions are the same instructions do the same, unless the run is a debug run. -/
theorem lockStep_runActions (settings : PageSettings) {actions actions' : List Action}
    (h : List.Forall₂ Action.Padded actions actions') (hdebug : w.store.flag "debug" = false)
    (before : Option (Chain Handle)) :
    LockStep w (runActions settings before actions) (runActions settings before actions') := by
  induction h generalizing w before with
  | nil => exact .refl _ _
  | @cons action action' left left' haction hleft ih =>
      rw [runActions, runActions, ← hleft.length_eq]
      refine (lockStep_runAction settings.wait hdebug haction.instruction_eq before).bind
        fun chain v hran => ?_
      have hv : v.store.flag "debug" = false := by
        have hasks := (assignsLast_runAction settings.wait before action).asks
        have hkept := World.flag_run hasks hdebug
        rwa [hran] at hkept
      refine (LockStep.refl v _).bind fun _ u hsettled => ?_
      have hu : u.store.flag "debug" = false := by
        have hasks : Task.Asks (Effect.SetsAmong [])
            (settle settings left.length : Task Handle RunError Unit) :=
          setsAmong_settle settings left.length
        have hkept := World.flag_run hasks hv
        rwa [hsettled] at hkept
      exact ih hu chain

end PageRun

/-- Outside of debug runs surplus parameters are ignored: whatever is written behind the parameters
that the commands of a page need, the page asks for the same, is answered the same, ends in the same
way, and leaves the same session, clock, store and log. -/
theorem surplus_parameters_are_ignored (settings : PageSettings) (w : World) {page page' : Page}
    (hdebug : w.store.flag "debug" = false)
    (h : List.Forall₂ Action.Padded page.actions page'.actions) :
    w.run (page'.run settings) = w.run (page.run settings) ∧
      w.trace (page'.run settings) = w.trace (page.run settings) := by
  have hstep := PageRun.lockStep_runActions settings h hdebug none
  exact ⟨hstep.run, hstep.trace⟩

/-- A page that tries to make its run a debug run, and fails at a name that is no command. -/
def terse : Page :=
  ⟨"p", [⟨"set", ["debug", "true"], 1⟩, ⟨"random_ssn", ["id"], 2⟩, ⟨"log_var", ["id"], 3⟩,
    ⟨"tweet", [], 4⟩]⟩

/-- The same page with more than its commands need. -/
def verbose : Page :=
  ⟨"p", [⟨"set", ["debug", "true", "1"], 1⟩, ⟨"random_ssn", ["id", ""], 2⟩, ⟨"log_var", ["id"], 3⟩,
    ⟨"tweet", ["hello", "world"], 4⟩]⟩

/-- Both log the drawn number, and nothing else. -/
theorem surplus_parameters_are_ignored_verbose :
    let w : World := ⟨.start .blank none 7, Store.empty.set "debug" (.string "true"), []⟩
    let settings : PageSettings := ⟨10, 500, ⟨500, 100, by decide⟩⟩
    w.store.flag "debug" = false ∧ List.Forall₂ Action.Padded terse.actions verbose.actions ∧
      w.run (verbose.run settings) = w.run (terse.run settings) ∧
      w.trace (verbose.run settings) = w.trace (terse.run settings) ∧
      (w.run (verbose.run settings)).1 = .failed (.unknownCommand "tweet" 4) ∧
      (w.run (verbose.run settings)).2.log.length = 1 := by
  intro w settings
  have hdebug : w.store.flag "debug" = false := by decide +kernel
  have hpadded : List.Forall₂ Action.Padded terse.actions verbose.actions := by
    refine .cons (.more ⟨"set", ["debug", "true"], 1⟩ ["1"] ?_)
      (.cons (.more ⟨"random_ssn", ["id"], 2⟩ [""] ?_)
        (.cons (.same _) (.cons (.more ⟨"tweet", [], 4⟩ ["hello", "world"] ?_) .nil))) <;>
      decide +kernel
  obtain ⟨hrun, htrace⟩ := surplus_parameters_are_ignored settings w hdebug hpadded
  exact ⟨hdebug, hpadded, hrun, htrace, by decide +kernel, by decide +kernel⟩

end BrowserSuite
