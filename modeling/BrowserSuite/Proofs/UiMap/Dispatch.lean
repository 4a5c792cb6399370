import BrowserSuite.Proofs.Files.Results
import BrowserSuite.Proofs.Page.Preludes
import BrowserSuite.Proofs.Program.Failing
import BrowserSuite.Proofs.SuiteRun.Shape
import BrowserSuite.UiMap.Loading
import Mathlib.Control.Monad.Basic

/-!
# Whatever loads can be dispatched

An action is checked when its UI map is loaded, and an instruction is made of it when its
page is run.  `Action.Dispatchable` is what the check is for: the action names a command,
and as many of its parameters as the command needs make an instruction, whatever stands
behind them.  Every action of a suite that has been loaded is dispatchable
(`yields_load`), whatever the files hold.

A page of dispatchable actions fails for what its instructions do and never for what they
are (`failsWith_runActions`): the reasons that are left are those of an execution, of a
session call and of a cancelled run.  Nor does it panic but as one of its calls does or for
a pause that is too long, so no instruction looks for a parameter that is not there.
-/

namespace BrowserSuite

/-! ## Checked actions -/

namespace Instruction

/-- A command looks at no more parameters than it needs. -/
theorem ofParams?_take (c : Command) (params : List String) :
    ofParams? c (params.take c.arity) = ofParams? c params := by
  cases c <;> rcases params with _ | ⟨a, _ | ⟨b, _ | ⟨c, _ | ⟨d, rest⟩⟩⟩⟩ <;> rfl

end Instruction

/-- An action that names a command and has all the parameters that the command reads. -/
def Action.Dispatchable (a : Action) : Prop :=
  ∃ c i, a.command? = some c ∧ c.arity ≤ a.params.length ∧
    Instruction.ofParams? c (a.params.take c.arity) = some i ∧ a.instruction = .ok i

/-- The check of an action is complete. -/
theorem Action.dispatchable_of_instruction {a : Action} {i : Instruction}
    (h : a.instruction = .ok i) : a.Dispatchable := by
  unfold instruction at h
  split at h
  · cases h
  · rename_i c hcommand
    split at h
    · rename_i i' hparams
      have hlength : c.arity ≤ a.params.length := by
        simpa [hparams] using (Instruction.isSome_ofParams? c a.params).symm
      refine ⟨c, i', hcommand, hlength, by rw [Instruction.ofParams?_take, hparams], ?_⟩
      simp [instruction, hcommand, hparams]
    · cases h

/-- All actions of lines that pass the check are dispatchable. -/
theorem dispatchable_of_checkedActions {delimiter : String} {lines : List (Nat × String)}
    {actions : List Action} (h : checkedActions delimiter lines = .ok actions) :
    ∀ action ∈ actions, action.Dispatchable := by
  refine forall_mem_of_mapM_eq_ok (fun l action hline => ?_) h
  obtain ⟨i, hinstruction, haction⟩ := exists_of_bind_eq_ok hline
  cases haction
  exact Action.dispatchable_of_instruction hinstruction

/-! ## Loading -/

/-- A page whose actions are all dispatchable. -/
def Page.Dispatchable (page : Page) : Prop := ∀ action ∈ page.actions, action.Dispatchable

namespace Loading

open FileTask (Yields)

theorem yields_page (delimiter : String) (maps : Path) (name : String) :
    (page delimiter maps name).Yields Page.Dispatchable := by
  refine .after fun lines => ?_
  cases hchecked : checkedActions delimiter lines with
  | ok actions => exact .pure (dispatchable_of_checkedActions hchecked)
  | error e => exact .throw _

theorem yields_suite (delimiter : String) (maps file : Path) :
    (suite delimiter maps file).Yields fun s => ∀ page ∈ s.pages, page.Dispatchable := by
  refine .after fun lines => ?_
  have hpages := Yields.mapM (fun l : Nat × String => yields_page delimiter maps l.2) lines
  exact hpages.bind fun pages hpages => .pure hpages

end Loading

/-- Loading yields pages that can be dispatched. -/
theorem UiMapSource.yields_load (source : UiMapSource) (path : Path) (filterExport : Option Path) :
    (source.load path filterExport).Yields fun suites =>
      ∀ suite ∈ suites, ∀ page ∈ suite.pages, page.Dispatchable := by
  unfold load
  refine .after fun kind => ?_
  cases kind with
  | none => exact .bind (P := fun _ => False) (.throw _) fun _ h => h.elim
  | some kind =>
      refine .after fun directory => .after fun maps => .after fun files => ?_
      exact .mapM (Loading.yields_suite source.delimiter maps) files

/-! ## Running -/

/-- The error of an action that could not be dispatched. -/
def RunError.isFault : RunError → Bool
  | arity _ _ _ _ | unknownCommand _ _ => true
  | _ => false

namespace PageRun

open BrowserSuite.Task (FailsWith)

variable {E : Type} {settings : PageSettings} {wait : WaitPolicy}

/-- An instruction does not fail as a faulty action does. -/
theorem failsWith_execute (chain : Option (Chain E)) (i : Instruction) :
    FailsWith (fun e => e.isFault = false) (execute wait chain i) := by
  refine (orderly_execute wait chain i).failsWith ?_ ?_
  · intro e he
    cases e <;> first | rfl | cases he
  · intro e
    cases e <;> rfl

/-- Nor does a dispatchable action: there is an instruction for it. -/
theorem failsWith_runAction {action : Action} (h : action.Dispatchable)
    (chain : Option (Chain E)) :
    FailsWith (fun e => e.isFault = false) (runAction wait chain action) := by
  obtain ⟨c, i, -, -, -, hinstruction⟩ := h
  rw [runAction_eq]
  refine .bind .ask fun cancelled => ?_
  cases cancelled with
  | true => exact .fail rfl
  | false =>
      change FailsWith _ (carryOut wait chain action)
      unfold carryOut
      rw [hinstruction]
      refine .bind (.bind .ask fun store => ?_) fun _ => failsWith_execute chain i
      cases store.flag "debug" with
      | true => exact .ask
      | false => exact .pure ()

/-- The delays between actions never fail. -/
theorem failsWith_settle {Q : RunError → Prop} (left : Nat) :
    FailsWith Q (settle settings left : Task E RunError Unit) := by
  refine .bind .ask fun _ => ?_
  split
  · exact .ask
  · exact .pure ()

/-- Dispatchable actions, one after the other, do not fail as a faulty action does. -/
theorem failsWith_runActions {actions : List Action} (h : ∀ a ∈ actions, a.Dispatchable)
    (chain : Option (Chain E)) :
    FailsWith (fun e => e.isFault = false) (runActions settings chain actions) := by
  induction actions generalizing chain with
  | nil => exact .pure ()
  | cons action rest ih =>
      obtain ⟨haction, hrest⟩ := List.forall_mem_cons.mp h
      exact (failsWith_runAction haction chain).bind fun chain =>
        (failsWith_settle rest.length).bind fun _ => ih hrest chain

end PageRun

/-- Whatever the files hold, every action of every page that was loaded names a command and
has all the parameters that the command reads.  So in no world does such a page end because
an action is unknown or short of parameters, and every panic in it is the panic of a session
call or that of a pause that is too long. -/
theorem loaded_pages_are_dispatched (t : FileTree) (source : UiMapSource) (path : Path)
    (filterExport : Option Path) {suites : List Suite}
    (hload : (t.run (source.load path filterExport)).1 = .ok suites) {suite : Suite}
    (hsuite : suite ∈ suites) {page : Page} (hpage : page ∈ suite.pages) :
    page.Dispatchable ∧
      ∀ (settings : PageSettings) (w : World),
        (∀ command line,
          (w.run (page.run settings)).1 ≠ .failed (.unknownCommand command line)) ∧
        (∀ command required given line,
          (w.run (page.run settings)).1 ≠ .failed (.arity command required given line)) ∧
        ∀ p, (w.run (page.run settings)).1 = .panicked p →
          p = Clock.pauseTooLong ∨ ∃ s ∈ w.trace (page.run settings), s.panic? = some p := by
  have hdispatchable : page.Dispatchable :=
    FileTree.yields_run (source.yields_load path filterExport) t hload suite hsuite page hpage
  refine ⟨hdispatchable, fun settings w => ?_⟩
  have hends := w.ends_trace (page.run settings)
  have hfault : ∀ e, (w.run (page.run settings)).1 = .failed e → e.isFault = false := by
    intro e he
    rw [he] at hends
    exact PageRun.failsWith_runActions hdispatchable none _ e hends
  refine ⟨fun command line he => ?_, fun command required given line he => ?_, fun p hp => ?_⟩
  · cases hfault _ he
  · cases hfault _ he
  · rw [hp] at hends
    exact PageRun.panicsByCall_runActions settings none page.actions _ p hends

/-- A suite with one UI map, in which one action has a parameter too many and one tries to
wait longer than there is time. -/
def sluggish : FileTree :=
  ⟨[(["maps"], .directory),
    (["maps", "home"], .file (.text "set,a,1,more\n# now wait\ndelay,1e30")),
    (["login"], .file (.text "home\n"))], []⟩

/-- The UI map is loaded, and its page panics with the pause that is too long. -/
theorem loaded_pages_are_dispatched_sluggish :
    let page : Page := ⟨"home", [⟨"set", ["a", "1", "more"], 1⟩, ⟨"delay", ["1e30"], 3⟩]⟩
    let w : World := ⟨.start .blank none 0, .empty, []⟩
    let settings : PageSettings := ⟨0, 0, ⟨500, 100, by decide⟩⟩
    (sluggish.run ((⟨",", ⟨"maps"⟩⟩ : UiMapSource).load ⟨"/login"⟩ none)).1 =
        .ok [⟨"/login", [page]⟩] ∧
      page.Dispatchable ∧
      (w.run (page.run settings)).1 = .panicked Clock.pauseTooLong ∧
      (Clock.pauseTooLong = Clock.pauseTooLong ∨
        ∃ s ∈ w.trace (page.run settings), s.panic? = some Clock.pauseTooLong) := by
  intro page w settings
  have hload : (sluggish.run ((⟨",", ⟨"maps"⟩⟩ : UiMapSource).load ⟨"/login"⟩ none)).1 =
      .ok [⟨"/login", [page]⟩] := by decide +kernel
  have hpanic : (w.run (page.run settings)).1 = .panicked Clock.pauseTooLong := by decide +kernel
  obtain ⟨hdispatchable, hruns⟩ := loaded_pages_are_dispatched sluggish _ _ none hload
    (List.mem_singleton_self _) (List.mem_singleton_self page)
  exact ⟨hload, hdispatchable, hpanic, (hruns settings w).2.2 _ hpanic⟩

end BrowserSuite
