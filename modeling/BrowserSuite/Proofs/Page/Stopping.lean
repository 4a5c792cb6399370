import BrowserSuite.Proofs.Page.Writes
import BrowserSuite.Proofs.SuiteRun.Shape

/-!
# Where a page stops, and what it leaves

Run in a world, a page is a walk along its actions.  `Reaches` follows the walk: every
action on the way is announced if the run is a debug run, is executed with a value, and its
delays pass.  `StoppedAt` says that a page has come to an action that did not end with a
value: a cancelled run does not start it, a faulty one cannot be made an instruction of, and
any other one fails or panics while it is executed.

An instruction that fails has written nothing (`writesLast_execute`), so a page that stops
leaves the store that the actions before have made, and a log to which the stopping action
has added at most its own announcement (`failed_action_keeps_store_and_log`).
-/

namespace BrowserSuite

namespace PageRun

variable {settings : PageSettings} {wait : WaitPolicy} {w v : World}
  {chain chain' : Option (Chain Handle)} {action : Action} {actions left : List Action}

/-! ## One action -/

/-- The line with which the log of a debug run announces an action. -/
def announcement (store : Store) (action : Action) : List String :=
  if store.flag "debug" then [action.describe] else []

theorem run_announce (w : World) (action : Action) :
    w.run (announce action : Task Handle RunError Unit) =
      (.value (), w.logged (announcement w.store action)) := by
  change w.run (if w.store.flag "debug" then Task.log action.describe else pure ()) = _
  unfold announcement
  split
  · rfl
  · simp only [World.logged, List.append_nil]
    rfl

/-- What is announced when an action is started; an action of a cancelled run is not. -/
def opening (w : World) (action : Action) : List String :=
  if w.site.cancelled then [] else announcement w.store action

/-- An action of a cancelled run fails at once.  Any other one is announced, and then
executed if there is an instruction for it. -/
theorem run_runAction (w : World) (chain : Option (Chain Handle)) (action : Action) :
    w.run (runAction wait chain action) =
      if w.site.cancelled then (.failed .cancelled, w)
      else
        match action.instruction with
        | .error e => (.failed e, w.logged (announcement w.store action))
        | .ok i => (w.logged (announcement w.store action)).run (execute wait chain i) := by
  rw [runAction_eq, World.run_bind_of_value w.run_isCancelled]
  split
  · rfl
  · refine (World.run_bind_of_value (run_announce w action) _).trans ?_
    cases action.instruction <;> rfl

/-- The delays after an action always end. -/
theorem run_settle (v : World) (settings : PageSettings) (left : Nat) :
    (v.run (settle settings left : Task Handle RunError Unit)).1 = .value () := by
  rw [settle, World.run_bind]
  change (World.run _ (if left = 1 then Task.sleep settings.pageDelay else pure ())).1 = _
  split <;> rfl

/-- The delays after an action write nothing. -/
theorem log_settle (v : World) (settings : PageSettings) (left : Nat) :
    (v.run (settle settings left : Task Handle RunError Unit)).2.log = v.log := by
  rw [settle, World.run_bind]
  change (World.run _ (if left = 1 then Task.sleep settings.pageDelay else pure ())).2.log = _
  split <;> rfl

/-- A page goes on after an action that ended with a value, and otherwise ends as it did. -/
theorem run_runActions_cons (settings : PageSettings) (w : World) (chain : Option (Chain Handle))
    (action : Action) (left : List Action) :
    w.run (runActions settings chain (action :: left)) =
      match w.run (runAction settings.wait chain action) with
      | (.value chain, v) =>
        (v.run (settle settings left.length : Task Handle RunError Unit)).2.run
          (runActions settings chain left)
      | (.failed e, v) => (.failed e, v)
      | (.panicked p, v) => (.panicked p, v) := by
  rw [runActions, World.run_bind]
  rcases w.run (runAction settings.wait chain action) with ⟨chain | e | p, v⟩
  · exact World.run_bind_of_value (Prod.ext (run_settle v settings left.length) rfl) _
  · rfl
  · rfl

/-- An action that does not end with a value leaves the store alone, and the log but for its
announcement. -/
theorem kept_of_runAction
    (hfailed : ∀ chain', (w.run (runAction wait chain action)).1 ≠ .value chain') :
    (w.run (runAction wait chain action)).2.store = w.store ∧
      (w.run (runAction wait chain action)).2.log = w.log ++ opening w action := by
  rw [run_runAction] at hfailed ⊢
  unfold opening
  split
  · simp
  · rename_i hgo
    rw [if_neg hgo] at hfailed
    cases hinstruction : action.instruction with
    | error e => exact ⟨rfl, rfl⟩
    | ok i =>
        rw [hinstruction] at hfailed
        exact World.kept_of_writesLast (writesLast_execute wait chain i) hfailed

/-! ## The walk along the actions -/

/-- From one action of a page to a later one: all actions on the way end with a value, and
their delays pass.  `lines` are the lines that they add to the log, each action its
announcement and what it logs itself. -/
inductive Reaches (settings : PageSettings) :
    World → Option (Chain Handle) → List Action → List String →
      World → Option (Chain Handle) → List Action → Prop
  | here (w : World) (chain : Option (Chain Handle)) (actions : List Action) :
      Reaches settings w chain actions [] w chain actions
  | next {w v x : World} {chain chain' chain'' : Option (Chain Handle)} {action : Action}
      {left last : List Action} {lines : List String} {i : Instruction}
      (hgo : w.site.cancelled = false) (hinstruction : action.instruction = .ok i)
      (hran : (w.logged (announcement w.store action)).run (execute settings.wait chain i) =
        (.value chain', v))
      (hrest : Reaches settings
        (v.run (settle settings left.length : Task Handle RunError Unit)).2 chain' left lines
        x chain'' last) :
      Reaches settings w chain (action :: left)
        (announcement w.store action ++
          (Task.messages ((w.logged (announcement w.store action)).trace
            (execute settings.wait chain i)) ++ lines))
        x chain'' last

/-- The log of a world that is reached ends with the lines of the way. -/
theorem Reaches.log {lines : List String}
    (h : Reaches settings w chain actions lines v chain' left) : v.log = w.log ++ lines := by
  induction h with
  | here w chain actions => exact (List.append_nil _).symm
  | @next w v x chain chain' chain'' action left last lines i hgo hinstruction hran hrest ih =>
      have hexecuted := World.log_run (w.logged (announcement w.store action))
        (execute settings.wait chain i)
      rw [hran] at hexecuted
      rw [ih, log_settle, hexecuted]
      simp [World.logged]

/-- A page stopped at the action at position `k`, which was come to in world `v`. -/
structure StoppedAt (settings : PageSettings) (page : Page) (w after : World) (k : Nat)
    (action : Action) (v : World) (chain : Option (Chain Handle)) (lines : List String) :
    Prop where
  position : page.actions[k]? = some action
  reached : Reaches settings w none page.actions lines v chain (page.actions.drop k)
  stopped : ∀ chain', (v.run (runAction settings.wait chain action)).1 ≠ .value chain'
  store : after.store = v.store
  log : after.log = w.log ++ lines ++ opening v action

/-- A page that does not end with a value comes to an action that does not, and does nothing
after it. -/
theorem exists_stop (h : (w.run (runActions settings chain actions)).1 ≠ .value ()) :
    ∃ k action left v chain' lines, actions.drop k = action :: left ∧
      Reaches settings w chain actions lines v chain' (action :: left) ∧
      (∀ chain'', (v.run (runAction settings.wait chain' action)).1 ≠ .value chain'') ∧
      (w.run (runActions settings chain actions)).2 =
        (v.run (runAction settings.wait chain' action)).2 := by
  induction actions generalizing w chain with
  | nil => exact absurd rfl h
  | cons action left ih =>
      rw [run_runActions_cons] at h ⊢
      rcases hran : w.run (runAction settings.wait chain action) with ⟨chain' | e | p, v⟩
      · -- the action ended with a value, so the page stopped later
        rw [hran] at h
        obtain ⟨k, stop, last, x, chain'', lines, hdrop, hreached, hstop, hafter⟩ := ih h
        rw [run_runAction] at hran
        split at hran
        · cases hran
        · rename_i hgo
          cases hinstruction : action.instruction with
          | error e =>
              rw [hinstruction] at hran
              cases hran
          | ok i =>
              rw [hinstruction] at hran
              exact ⟨k + 1, stop, last, x, chain'', _, hdrop,
                .next (Bool.eq_false_iff.mpr hgo) hinstruction hran hreached, hstop, hafter⟩
      · exact ⟨0, action, left, w, chain, [], rfl, .here _ _ _, by simp [hran], by rw [hran]⟩
      · exact ⟨0, action, left, w, chain, [], rfl, .here _ _ _, by simp [hran], by rw [hran]⟩

end PageRun

open PageRun in
/-- Whatever the browser does, an instruction that ends with an error or a panic leaves the
store and the log as they were when it began.  So a page that stops at some action leaves
the store that the actions before it have made, and in the log what these have written and
the announcement of the action itself. -/
theorem failed_action_keeps_store_and_log (settings : PageSettings) (w : World) :
    (∀ (chain : Option (Chain Handle)) (i : Instruction),
      (∀ chain', (w.run (execute settings.wait chain i)).1 ≠ .value chain') →
        (w.run (execute settings.wait chain i)).2.store = w.store ∧
          (w.run (execute settings.wait chain i)).2.log = w.log) ∧
      ∀ page : Page, (w.run (page.run settings)).1 ≠ .value () →
        ∃ k action v chain lines,
          StoppedAt settings page w (w.run (page.run settings)).2 k action v chain lines := by
  refine ⟨fun chain i hfailed => ?_, fun page hstopped => ?_⟩
  · exact World.kept_of_writesLast (writesLast_execute settings.wait chain i) hfailed
  · change (w.run (runActions settings none page.actions)).1 ≠ .value () at hstopped
    obtain ⟨k, action, left, v, chain, lines, hdrop, hreached, hstop, hafter⟩ :=
      exists_stop hstopped
    have hend : (w.run (page.run settings)).2 = (v.run (runAction settings.wait chain action)).2 :=
      hafter
    obtain ⟨hstore, hlog⟩ := kept_of_runAction hstop
    refine ⟨k, action, v, chain, lines, ?_, ?_, hstop, ?_, ?_⟩
    · rw [← List.head?_drop, hdrop]
      rfl
    · rw [hdrop]
      exact hreached
    · rw [hend, hstore]
    · rw [hend, hlog, hreached.log]

/-- A page that sets a variable and writes a line before it reads a text. -/
def reading : Page :=
  ⟨"p", [⟨"set", ["a", "1"], 1⟩, ⟨"log", ["hello"], 2⟩,
    ⟨"store_text", ["id", "ok", "a"], 3⟩, ⟨"log", ["never"], 4⟩]⟩

/-- A debug run with a browser that panics when a text is read. -/
def unreadable : World :=
  let browser := Scripted.blank.addElement ⟨"id=ok", 0, "", [], [], 0, false, 0⟩
  let rule := ⟨"text", none, 0, none, 0, false, some (.text "boom"), none⟩
  ⟨.start { browser with rules := [rule] } none 0, Store.empty.set "debug" (.bool true), []⟩

open PageRun in
/-- The panic leaves the value that was set, and the lines up to the announcement of the
action that panicked. -/
theorem failed_action_keeps_store_and_log_unreadable :
    let settings : PageSettings := ⟨0, 0, ⟨500, 100, by decide⟩⟩
    let read := execute settings.wait none (.storeText "id" "ok" "a")
    let after := (unreadable.run (reading.run settings)).2
    (unreadable.run read).1 = .panicked (.text "boom") ∧
      (unreadable.run read).2.store = unreadable.store ∧
      (unreadable.run (reading.run settings)).1 = .panicked (.text "boom") ∧
      (∃ k action v chain lines,
        StoppedAt settings reading unreadable after k action v chain lines) ∧
      after.store.text? "a" = some "1" ∧
      after.log = ["[set, a, 1] (line 1)", "[log, hello] (line 2)", "hello",
        "[store_text, id, ok, a] (line 3)"] := by
  intro settings read after
  have hread : (unreadable.run read).1 = .panicked (.text "boom") := by decide +kernel
  have hpage : (unreadable.run (reading.run settings)).1 = .panicked (.text "boom") := by
    decide +kernel
  obtain ⟨hhandler, hstops⟩ := failed_action_keeps_store_and_log settings unreadable
  refine ⟨hread, (hhandler none _ ?_).1, hpage, hstops reading ?_, by decide +kernel,
    by decide +kernel⟩
  · rw [hread]
    nofun
  · rw [hpage]
    nofun

end BrowserSuite
