import BrowserSuite.Proofs.Page.Pending
import BrowserSuite.Proofs.Page.Stopping

/-!
# Mistakes in a script

Some errors are mistakes of the script: a command that there is not, a parameter that is
missing or cannot be used, a variable that has not been set.  Each of them is noticed before
the browser is touched.

A task is `MistakenAfter Q` if all that it has asked for satisfies `Q` wherever it ends with a
mistake.  Every handler first makes what it needs of its parameters and reads its variables;
what it does then is `Unmistaken`, it fails for other reasons only.  So an instruction has
looked at nothing but the store when it ends with a mistake (`mistakenAfter_execute`), and a
task that has looked at nothing but the store has left the world as it was
(`World.run_of_reads`).

The clearing of a field before typing comes between two look-ups of one locator.  The second
one is made of the same parameters as the first, so there is no new mistake in it.
-/

namespace BrowserSuite

/-- A reason to stop that lies in the script. -/
def RunError.isMistake : RunError → Bool
  | unknownCommand _ _ | arity _ _ _ _ | invalidParameter _ | unknownVariable _ => true
  | _ => false

theorem RunError.isMistake_ofBrowser (e : BrowserError) : (ofBrowser e).isMistake = false := by
  cases e <;> rfl

/-! ## Tasks that are mistaken -/

namespace Task

variable {E α β : Type} {Q : Effect E → Prop} {t : Task E RunError α}

/-- A task that does not end with a mistake. -/
abbrev Unmistaken (t : Task E RunError α) : Prop := FailsWith (fun e => e.isMistake = false) t

/-- Where the task ends with a mistake, all that it has asked for satisfies `Q`. -/
def MistakenAfter (Q : Effect E → Prop) (t : Task E RunError α) : Prop :=
  ∀ steps e, t.Ends steps (.failed e) → e.isMistake = true → ∀ s ∈ steps, Q s.request

namespace MistakenAfter

theorem of_asks (ht : Asks Q t) : MistakenAfter Q t := fun steps _ h _ => ht steps _ h

theorem of_unmistaken (ht : Unmistaken t) : MistakenAfter Q t := by
  intro steps e h he
  rw [ht steps e h] at he
  cases he

theorem mono {Q' : Effect E → Prop} (ht : MistakenAfter Q t) (h : ∀ r, Q r → Q' r) :
    MistakenAfter Q' t :=
  fun steps e hends he s hs => h _ (ht steps e hends he s hs)

/-- What is asked for before the mistaken part counts as well. -/
theorem bind {f : α → Task E RunError β} (ht : Asks Q t) (hf : ∀ a, MistakenAfter Q (f a)) :
    MistakenAfter Q (t >>= f) := by
  intro steps e h he
  rcases ends_bind_cases h with ⟨first, rest, a, rfl, hfirst, hrest⟩ | ⟨_, -, h⟩ | ⟨_, hp, -⟩
  · exact List.forall_mem_append.mpr ⟨ht _ _ hfirst, hf a _ _ hrest he⟩
  · exact ht _ _ h
  · cases hp

/-- Nothing that is unmistaken adds a mistake behind it. -/
theorem bind_unmistaken {f : α → Task E RunError β} (ht : MistakenAfter Q t)
    (hf : ∀ a, Unmistaken (f a)) : MistakenAfter Q (t >>= f) := by
  intro steps e h he
  rcases ends_bind_cases h with ⟨_, rest, a, -, -, hrest⟩ | ⟨err, herr, h⟩ | ⟨_, hp, -⟩
  · rw [hf a rest e hrest] at he
    cases he
  · cases herr
    exact ht _ _ h he
  · cases hp

end MistakenAfter

end Task

namespace PageRun

open BrowserSuite.Task (Asks FailsWith Unmistaken MistakenAfter)

variable {E α : Type} {wait : WaitPolicy} {Q : Effect E → Prop}

/-! ## What is done on the session -/

theorem unmistaken_wait (t : Task E BrowserError α) (awaited : String) :
    Unmistaken (wait.wait t awaited) := by
  refine .bind .ask fun start => ?_
  generalize start + wait.timeout = deadline
  generalize wait.maxAttempts = fuel
  induction fuel with
  | zero => exact .fail rfl
  | succ fuel ih =>
      refine (FailsWith.attempt t).bind fun r => ?_
      cases r with
      | ok a => exact .pure a
      | error e =>
          change Unmistaken (if e.isTransient = true then _ else _)
          split
          · refine .bind .ask fun now => ?_
            split
            · exact .fail rfl
            · exact .bind .ask fun _ => ih
          · exact .fail (RunError.isMistake_ofBrowser e)

theorem unmistaken_mapError (t : Task E BrowserError α) :
    Unmistaken (t.mapError RunError.ofBrowser) :=
  .mapError RunError.isMistake_ofBrowser t

theorem unmistaken_callOrStop (c : Call E) : Unmistaken (Task.callOrStop c) :=
  unmistaken_mapError (Task.call c)

theorem unmistaken_started (chain : Option (Chain E)) : Unmistaken (started chain) := by
  cases chain with
  | some chain => exact .pure chain
  | none => exact .fail rfl

theorem unmistaken_clickEach (elements : List E) : Unmistaken (clickEach elements) := by
  induction elements with
  | nil => exact .pure ()
  | cons element rest ih =>
      refine (FailsWith.attempt _).bind fun r => ?_
      rcases attempt_cases r with ⟨u, rfl⟩ | ⟨d, rfl⟩ | ⟨e, rfl, he⟩
      · exact ih
      · exact .fail rfl
      · cases e with
        | session d => cases he
        | _ => exact ih

/-! ## What is looked at first -/

theorem asks_orStop (x : Except RunError α) : Asks Q (orStop x) := by
  cases x with
  | ok a => exact .pure a
  | error e => exact .fail e

theorem asks_variableText (key : String) :
    Asks (· = .readStore) (variableText key : Task E RunError String) := by
  refine .bind (.ask rfl fun _ => .ended _) fun store => ?_
  cases store.text? key with
  | some text => exact .pure text
  | none => exact .fail _

theorem mistakenAfter_awaitElement (kind target : String) :
    MistakenAfter Q (awaitElement wait kind target : Task E RunError E) :=
  .bind (asks_orStop _) fun _ => .of_unmistaken (unmistaken_wait _ _)

theorem mistakenAfter_awaitClick (kind target : String) :
    MistakenAfter Q (awaitClick wait kind target : Task E RunError E) :=
  (mistakenAfter_awaitElement kind target).bind_unmistaken fun element =>
    .bind (unmistaken_wait _ _) fun _ => .pure element

theorem mistakenAfter_clearElement (kind target : String) :
    MistakenAfter Q (clearElement wait kind target : Task E RunError Unit) :=
  (mistakenAfter_awaitElement kind target).bind_unmistaken fun _ => unmistaken_callOrStop _

theorem mistakenAfter_typeInto (kind target text : String) :
    MistakenAfter Q (typeInto wait kind target text : Task E RunError Unit) :=
  (mistakenAfter_awaitClick kind target).bind_unmistaken fun _ => unmistaken_callOrStop _

theorem mistakenAfter_enterFrameOf (kind target : String) :
    MistakenAfter Q (enterFrameOf wait kind target : Task E RunError Unit) :=
  .bind (asks_orStop _) fun _ => .of_unmistaken <|
    .bind (unmistaken_wait _ _) fun _ => unmistaken_mapError _

theorem mistakenAfter_pauseFor (text : String) :
    MistakenAfter Q (pauseFor text : Task E RunError Unit) := by
  refine .bind (asks_orStop _) fun ms => .of_unmistaken ?_
  cases Clock.pauseOf ms with
  | some pause => exact .ask
  | none => exact .panicWith _

theorem mistakenAfter_setBase (url : String) :
    MistakenAfter (· = .readStore) (setBase url : Task E RunError Unit) := by
  unfold setBase
  split
  · exact .bind (asks_variableText _) fun _ => .of_unmistaken .ask
  · exact .of_unmistaken .ask

/-- A locator of which something was made is made again. -/
theorem unmistaken_typeInto {kind target : String} {l : Locator}
    (h : locator kind target = .ok l) (text : String) :
    Unmistaken (typeInto wait kind target text : Task E RunError Unit) := by
  have helement : Unmistaken (awaitElement wait kind target : Task E RunError E) := by
    unfold awaitElement
    rw [h]
    exact unmistaken_wait _ _
  exact .bind (.bind helement fun element => .bind (unmistaken_wait _ _) fun _ => .pure element)
    fun _ => unmistaken_callOrStop _

theorem mistakenAfter_clearType (chain : Option (Chain E)) (kind target text : String) :
    MistakenAfter Q (execute wait chain (.clearType kind target text)) := by
  cases h : locator kind target with
  | error e =>
      have hfails : execute wait chain (.clearType kind target text) = Task.fail e := by
        simp only [execute, clearElement, awaitElement, h]
        rfl
      rw [hfails]
      exact .of_asks (.fail e)
  | ok l =>
      exact (mistakenAfter_clearElement kind target).bind_unmistaken fun _ =>
        .bind (unmistaken_typeInto h text) fun _ => .pure chain

/-! ## Instructions and actions -/

/-- An instruction that ends with a mistake has looked at the store, if at anything. -/
theorem mistakenAfter_execute (wait : WaitPolicy) (chain : Option (Chain E)) (i : Instruction) :
    MistakenAfter (· = .readStore) (execute wait chain i) := by
  cases i with
  | gestureNew => exact .of_unmistaken (.pure _)
  | gestureMove kind target =>
      exact (mistakenAfter_awaitElement kind target).bind_unmistaken fun _ =>
        .bind (unmistaken_started chain) fun _ => .pure _
  | gestureClick => exact .of_unmistaken <| .bind (unmistaken_started chain) fun _ => .pure _
  | gestureKeys names =>
      exact .bind (asks_orStop _) fun _ => .of_unmistaken <|
        .bind (unmistaken_started chain) fun _ => .pure _
  | gesturePerform =>
      exact .of_unmistaken <| .bind (unmistaken_started chain) fun _ =>
        .bind (unmistaken_mapError _) fun _ => .pure _
  | clear kind target =>
      exact (mistakenAfter_clearElement kind target).bind_unmistaken fun _ => .pure chain
  | clearType kind target text => exact mistakenAfter_clearType chain kind target text
  | click kind target =>
      exact (mistakenAfter_awaitClick kind target).bind_unmistaken fun _ => .pure chain
  | clickAll kind target =>
      exact .bind (asks_orStop _) fun _ => .of_unmistaken <|
        .bind (unmistaken_callOrStop _) fun elements =>
          .bind (unmistaken_clickEach elements) fun _ => .pure chain
  | keys kind target names =>
      exact .bind (asks_orStop _) fun codes =>
        (mistakenAfter_typeInto kind target codes).bind_unmistaken fun _ => .pure chain
  | selectByText kind target _ | selectByValue kind target _ =>
      exact (mistakenAfter_awaitElement kind target).bind_unmistaken fun _ =>
        .bind (unmistaken_wait _ _) fun _ => .pure chain
  | typeText kind target text =>
      exact (mistakenAfter_typeInto kind target text).bind_unmistaken fun _ => .pure chain
  | typeVariable kind target key =>
      exact .bind (asks_variableText key) fun text =>
        (mistakenAfter_typeInto kind target text).bind_unmistaken fun _ => .pure chain
  | baseUrl url => exact (mistakenAfter_setBase url).bind_unmistaken fun _ => .pure chain
  | openPage path =>
      exact .bind (asks_variableText "base") fun _ => .of_unmistaken <|
        .bind (unmistaken_callOrStop _) fun _ => .pure chain
  | findFrame kind target =>
      exact (mistakenAfter_enterFrameOf kind target).bind_unmistaken fun _ => .pure chain
  | switchToDefault =>
      exact .of_unmistaken <| .bind (unmistaken_callOrStop _) fun _ => .pure chain
  | switchToFrame frame => exact .of_unmistaken <| .bind (unmistaken_wait _ _) fun _ => .pure chain
  | setWindowSize width height =>
      exact .bind (asks_orStop _) fun _ => .bind (asks_orStop _) fun _ => .of_unmistaken <|
        .bind (unmistaken_callOrStop _) fun _ => .pure chain
  | setVariable key value => exact .of_unmistaken <| .bind .ask fun _ => .pure chain
  | randomSsn key =>
      exact .of_unmistaken <| .bind .ask fun _ => .bind .ask fun _ => .pure chain
  | storeAttribute kind target _ _ | storeText kind target _ =>
      exact (mistakenAfter_awaitElement kind target).bind_unmistaken fun _ =>
        .bind (unmistaken_callOrStop _) fun _ => .bind .ask fun _ => .pure chain
  | log message => exact .of_unmistaken <| .bind .ask fun _ => .pure chain
  | logVariable key =>
      exact .bind (asks_variableText key) fun _ => .of_unmistaken <|
        .bind .ask fun _ => .pure chain
  | delay text => exact (mistakenAfter_pauseFor text).bind_unmistaken fun _ => .pure chain
  | verifyText kind target expected =>
      refine (mistakenAfter_awaitElement kind target).bind_unmistaken fun _ =>
        .bind (unmistaken_callOrStop _) fun text => ?_
      split
      · exact .pure chain
      · exact .fail rfl

theorem asks_announce (hread : Q .readStore) (hlog : ∀ message, Q (.log message))
    (action : Action) : Asks Q (announce action : Task E RunError Unit) := by
  refine .bind (.ask hread fun _ => .ended _) fun store => ?_
  split
  · exact .ask (hlog _) fun _ => .ended _
  · exact .pure ()

/-- An action that ends with a mistake has not called the browser. -/
theorem mistakenAfter_runAction (wait : WaitPolicy) (chain : Option (Chain E)) (action : Action) :
    MistakenAfter (fun r => ∀ c, r ≠ .call c) (runAction wait chain action) := by
  rw [runAction_eq]
  refine .bind (.ask nofun fun _ => .ended _) fun cancelled => ?_
  cases cancelled with
  | true => exact .of_unmistaken (.fail rfl)
  | false =>
      refine .bind (asks_announce nofun (fun _ => nofun) action) fun _ =>
        .bind (asks_orStop _) fun i => (mistakenAfter_execute wait chain i).mono ?_
      rintro r rfl
      exact nofun

end PageRun

/-! ## The pending chain -/

namespace ChainTask

open BrowserSuite.Task (Unmistaken)

variable {E α : Type} {chain chain' : Option (Chain E)} {steps : List (Task.Step E)} {e : RunError}

/-- A task that leaves the pending chain alone where it ends with a mistake. -/
def KeptByMistakes (t : ChainTask E α) : Prop :=
  ∀ chain steps e chain', Program.Leads (t chain) steps (.done (.failed e, chain')) →
    e.isMistake = true → chain' = chain

theorem leads_aside {t : Task E RunError α} {x : Ending RunError α}
    (h : Program.Leads (aside t chain) steps (.done (x, chain'))) :
    t.Ends steps x ∧ chain' = chain := by
  obtain ⟨first, rest, y, rfl, hfirst, hrest⟩ := Program.leads_bind_done_iff.mp h
  obtain ⟨rfl, hdone⟩ := Program.leads_done_iff.mp hrest
  cases hdone
  rw [List.append_nil]
  exact ⟨hfirst, rfl⟩

theorem keptByMistakes_aside (t : Task E RunError α) : KeptByMistakes (aside t) :=
  fun _ _ _ _ h _ => (leads_aside h).2

/-- After a task that leaves the chain alone, the next one finds it as it was. -/
theorem KeptByMistakes.after_aside {β : Type} {f : α → ChainTask E β}
    (hf : ∀ a, KeptByMistakes (f a)) (t : Task E RunError α) : KeptByMistakes (aside t >>= f) := by
  intro chain steps e chain' h he
  obtain ⟨first, rest, ⟨x, left⟩, rfl, hfirst, hrest⟩ := Program.leads_bind_done_iff.mp h
  obtain ⟨-, rfl⟩ := leads_aside hfirst
  cases x with
  | value a => exact hf a _ _ _ _ hrest he
  | failed e' =>
      cases (Program.leads_done_iff.mp hrest).2
      rfl
  | panicked p => cases (Program.leads_done_iff.mp hrest).2

theorem KeptByMistakes.after_pending {f : Chain E → ChainTask E α}
    (hf : ∀ c, KeptByMistakes (f c)) : KeptByMistakes (pending >>= f) :=
  fun chain => KeptByMistakes.after_aside hf (PageRun.started chain) chain

theorem keptByMistakes_replace (other : Option (Chain E)) : KeptByMistakes (replace other) := by
  intro chain steps e chain' h
  cases (Program.leads_done_iff.mp h).2

theorem keptByMistakes_extend (step : Gesture E) : KeptByMistakes (extend step) :=
  .after_pending fun _ => keptByMistakes_replace _

/-- What replaces the chain does so before nothing but what is unmistaken. -/
theorem KeptByMistakes.replace_aside {t : Task E RunError α} (ht : Unmistaken t)
    (other : Option (Chain E)) : KeptByMistakes (replace other >>= fun _ => aside t) := by
  intro chain steps e chain' h he
  have haside : Program.Leads (aside t other) steps (.done (.failed e, chain')) := h
  have hends : t.Ends steps (.failed e) := (leads_aside haside).1
  rw [ht _ _ hends] at he
  cases he

end ChainTask

namespace PageRun

open ChainTask

variable {E : Type} {wait : WaitPolicy}

theorem keptByMistakes_executeOn (i : Instruction) :
    KeptByMistakes (executeOn wait i : ChainTask E Unit) := by
  cases i with
  | gestureNew => exact keptByMistakes_replace _
  | gestureMove kind target => exact .after_aside (fun _ => keptByMistakes_extend _) _
  | gestureClick => exact keptByMistakes_extend _
  | gestureKeys names => exact .after_aside (fun _ => keptByMistakes_extend _) _
  | gesturePerform => exact .after_pending fun _ => .replace_aside (unmistaken_mapError _) none
  | _ => exact keptByMistakes_aside _

theorem keptByMistakes_actOn (action : Action) :
    KeptByMistakes (actOn wait action : ChainTask E Unit) := by
  refine .after_aside (fun cancelled => ?_) _
  cases cancelled with
  | true => exact keptByMistakes_aside _
  | false => exact .after_aside (fun _ => .after_aside keptByMistakes_executeOn _) _

end PageRun

/-! ## Actions in a world -/

namespace World

variable {ε α : Type}

/-- Whoever only looks at the store leaves the world as it is. -/
theorem run_of_reads {w : World} {t : Task Handle ε α}
    (h : ∀ s ∈ w.trace t, s.request = .readStore) : (w.run t).2 = w := by
  change (Program.run answer t w).2 = w
  change ∀ s ∈ Program.trace answer t w, s.request = .readStore at h
  induction t with
  | done x => rfl
  | ask r next ih =>
      obtain ⟨hr, hrest⟩ := List.forall_mem_cons.mp h
      obtain rfl : r = .readStore := hr
      exact ih w.store hrest

/-- A run that ends with a mistake shows the chain that was pending before it. -/
theorem runOn_of_mistake {w : World} {chain : Option (Chain Handle)} {t : ChainTask Handle Unit}
    (ht : t.KeptByMistakes) {e : RunError} (he : e.isMistake = true)
    (hfailed : (w.run (t.forgotten chain)).1 = .failed e) :
    w.runOn chain t = ((.failed e, chain), (w.run (t.forgotten chain)).2) := by
  have hleads : Program.Leads (t chain) (Program.trace answer (t chain) w)
      (.done (w.runOn chain t).1) := Program.leads_trace (t chain) w
  rw [run_forgotten] at hfailed ⊢
  rcases hrun : w.runOn chain t with ⟨⟨u | e' | p, left⟩, v⟩
  · simp [hrun, ChainTask.withChain] at hfailed
  · rw [hrun] at hfailed hleads
    cases hfailed
    rw [ht chain _ _ _ hleads he]
  · simp [hrun, ChainTask.withChain] at hfailed

end World

namespace PageRun

variable {wait : WaitPolicy} {w : World} {chain : Option (Chain Handle)} {action : Action}
  {e : RunError}

/-- A mistaken action leaves its announcement in a debug run, and nothing else. -/
theorem run_runAction_of_mistake (he : e.isMistake = true)
    (hfailed : (w.run (runAction wait chain action)).1 = .failed e) :
    (w.run (runAction wait chain action)).2 = w.logged (announcement w.store action) := by
  rw [run_runAction] at hfailed ⊢
  split
  · -- a cancelled run is no mistake
    rename_i hcancelled
    rw [if_pos hcancelled] at hfailed
    cases hfailed
    cases he
  · rename_i hgo
    rw [if_neg hgo] at hfailed
    cases hinstruction : action.instruction with
    | error e' => rfl
    | ok i =>
        rw [hinstruction] at hfailed
        have hends := (w.logged (announcement w.store action)).ends_trace (execute wait chain i)
        rw [hfailed] at hends
        exact World.run_of_reads (mistakenAfter_execute wait chain i _ _ hends he)

end PageRun

open PageRun in
/-- An action that ends because its command is unknown, because a parameter is missing or
cannot be used, or because a variable is not set, has not called the browser.  The clock, the
browser with its frame context, and the store are as they were, the log has been given the
announcement of a debug run at most, and the pending chain is still the one that was pending. -/
theorem mistaken_action_changes_nothing (wait : WaitPolicy) (w : World)
    (chain : Option (Chain Handle)) (action : Action) {e : RunError} (he : e.isMistake = true)
    (hfailed : (w.run (runAction wait chain action)).1 = .failed e) :
    let after := (w.run (runAction wait chain action)).2
    (∀ s ∈ w.trace (runAction wait chain action), ∀ c, s.request ≠ .call c) ∧
      after.site = w.site ∧ after.store = w.store ∧
      after.log = w.log ++ announcement w.store action ∧
      w.runOn chain (actOn wait action) = ((.failed e, chain), after) := by
  intro after
  have hends := w.ends_trace (runAction wait chain action)
  rw [hfailed] at hends
  have hcalls := mistakenAfter_runAction wait chain action _ _ hends he
  have hafter : after = w.logged (announcement w.store action) :=
    run_runAction_of_mistake he hfailed
  have hchain : w.runOn chain (actOn wait action) = ((.failed e, chain), after) := by
    have hforgotten : (actOn wait action).forgotten chain = runAction wait chain action :=
      forgotten_actOn action chain
    rw [← hforgotten] at hfailed
    have hrunOn := World.runOn_of_mistake (keptByMistakes_actOn action) he hfailed
    rwa [hforgotten] at hrunOn
  refine ⟨hcalls, ?_, ?_, ?_, hchain⟩ <;> rw [hafter] <;> rfl

/-- A debug run in the middle of a page: its session is in an inner frame. -/
def midway : World :=
  let browser := Scripted.blank.addFrame rootFrame "inner"
  ⟨{ Site.start { browser with context := [1] } none 0 with clock := 700 },
    Store.empty.set "debug" (.bool true), ["before"]⟩

open PageRun in
/-- Only the second parameter of the one action is wrong.  The other one has a locator of no
known kind, but its variable is looked for first. -/
theorem mistaken_action_changes_nothing_midway :
    let wait : WaitPolicy := ⟨500, 100, by decide⟩
    let chain : Option (Chain Handle) := some ⟨[.click]⟩
    let resize : Action := ⟨"set_window_size", ["800", "tall"], 3⟩
    let fill : Action := ⟨"type_var", ["near", "name", "user"], 4⟩
    (midway.run (runAction wait chain resize)).2.site = midway.site ∧
      (midway.run (runAction wait chain resize)).2.log =
        ["before", "[set_window_size, 800, tall] (line 3)"] ∧
      (midway.runOn chain (actOn wait resize)).1 =
        (.failed (.invalidParameter (.dimension "tall")), chain) ∧
      (midway.run (runAction wait chain fill)).2.site = midway.site ∧
      (midway.runOn chain (actOn wait fill)).1 = (.failed (.unknownVariable "user"), chain) := by
  intro wait chain resize fill
  have hresize : (midway.run (runAction wait chain resize)).1 =
      .failed (.invalidParameter (.dimension "tall")) := by decide +kernel
  have hfill : (midway.run (runAction wait chain fill)).1 = .failed (.unknownVariable "user") := by
    decide +kernel
  obtain ⟨-, hsite, -, hlog, hchain⟩ :=
    mistaken_action_changes_nothing wait midway chain resize rfl hresize
  obtain ⟨-, hsite', -, -, hchain'⟩ :=
    mistaken_action_changes_nothing wait midway chain fill rfl hfill
  refine ⟨hsite, ?_, congrArg Prod.fst hchain, hsite', congrArg Prod.fst hchain'⟩
  rw [hlog]
  decide +kernel

end BrowserSuite
