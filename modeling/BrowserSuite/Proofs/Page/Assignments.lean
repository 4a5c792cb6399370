import BrowserSuite.Proofs.Isolation.Variables
import BrowserSuite.Proofs.Page.Stopping

/-!
# What a page writes to the store

A later suite of the same worker finds what a page leaves in the store, so it matters what
that can be.  Every instruction sets at most the variable that it names (`Instruction.writes?`),
and it to a text or to null (`asks_execute`).  It does so behind everything that can fail, so
an action that does not end with a value has set nothing (`assignsLast_runAction`).

Along a page this adds up: all variables that are set are named by actions that were
completed (`setsAmong_of_mem_trace`).  What is in the store after the page is read off the
settings of its trace, the last of each variable (`Task.get?_assigned`).
-/

namespace BrowserSuite

/-- Whether a value is a text or null. -/
def Json.Value.isTextOrNull : Value → Bool
  | .string _ | .null => true
  | _ => false

/-- A request that sets no variable, or one of these, and that to a text or to null. -/
def Effect.SetsAmong {E : Type} (keys : List String) (r : Effect E) : Prop :=
  ∀ key value, r = .setVariable key value → key ∈ keys ∧ value.isTextOrNull = true

theorem Effect.SetsAmong.mono {E : Type} {keys keys' : List String} {r : Effect E}
    (h : r.SetsAmong keys) (hkeys : keys ⊆ keys') : r.SetsAmong keys' :=
  fun key value hr => (h key value hr).imp_left (hkeys ·)

theorem Effect.setsAmong_of_writes_eq_false {E : Type} {keys : List String} {r : Effect E}
    (h : r.writes = false) : r.SetsAmong keys := by
  rintro key value rfl
  cases h

/-! ## Tasks that set variables last -/

namespace Task

variable {E ε α β : Type} {keys : List String} {t : Task E ε α}

/-- A task that sets no other variables than these, and none if it does not end with a value. -/
structure AssignsLast (keys : List String) (t : Task E ε α) : Prop where
  asks : Asks (Effect.SetsAmong keys) t
  nothing : ∀ steps x, t.Ends steps x → (∀ a, x ≠ .value a) →
    ∀ s ∈ steps, s.request.SetsAmong []

theorem AssignsLast.fail (e : ε) : AssignsLast keys (Task.fail e : Task E ε α) where
  asks := .fail e
  nothing steps x h _ := by
    obtain ⟨rfl, -⟩ := ends_ended_iff.mp h
    exact List.forall_mem_nil _

/-- What sets no variable may come before. -/
theorem AssignsLast.after {f : α → Task E ε β} (ht : Asks (Effect.SetsAmong []) t)
    (hf : ∀ a, AssignsLast keys (f a)) : AssignsLast keys (t >>= f) where
  asks := (ht.mono fun _ h => h.mono (List.nil_subset _)).bind fun a => (hf a).asks
  nothing steps x h hx := by
    rcases ends_bind_cases h with ⟨first, rest, a, rfl, hfirst, hrest⟩ | ⟨e, -, h⟩ | ⟨p, -, h⟩
    · exact List.forall_mem_append.mpr ⟨ht _ _ hfirst, (hf a).nothing _ _ hrest hx⟩
    · exact ht _ _ h
    · exact ht _ _ h

/-- After some settings of variables, a variable is as it was, or it is one of them and holds
a text or null. -/
theorem get?_assigned {steps : List (Step E)} (h : ∀ s ∈ steps, s.request.SetsAmong keys)
    (store : Store) (key : String) :
    (assigned store steps).get? key = store.get? key ∨
      key ∈ keys ∧ ∃ value, (assigned store steps).get? key = some value ∧
        value.isTextOrNull = true := by
  induction steps generalizing store with
  | nil => exact .inl rfl
  | cons s rest ih =>
      obtain ⟨hs, hrest⟩ := List.forall_mem_cons.mp h
      obtain ⟨r, reply⟩ := s
      cases r with
      | setVariable other value =>
          -- later settings may have changed it again
          obtain ⟨hother, hvalue⟩ := hs other value rfl
          rcases ih hrest (store.set other value) with hkept | hset
          · by_cases heq : key = other
            · subst heq
              rw [Store.get?_set_self] at hkept
              exact .inr ⟨hother, value, hkept, hvalue⟩
            · rw [Store.get?_set_of_ne _ _ heq] at hkept
              exact .inl hkept
          · exact .inr hset
      | _ => exact ih hrest store

/-- No variable has become true by such settings. -/
theorem flag_assigned {steps : List (Step E)} (h : ∀ s ∈ steps, s.request.SetsAmong keys)
    {store : Store} {key : String} (hkey : store.flag key = false) :
    (assigned store steps).flag key = false := by
  unfold Store.flag at hkey ⊢
  rcases get?_assigned h store key with hkept | ⟨-, value, hvalue, htext⟩
  · rwa [hkept]
  · rw [hvalue]
    cases value with
    | bool b => cases htext
    | _ => rfl

end Task

namespace PageRun

open BrowserSuite.Task (Asks AssignsLast)

variable {E : Type} {wait : WaitPolicy} {keys : List String}

/-! ## Instructions -/

theorem asks_setVariable {key : String} {value : Json.Value} (hvalue : value.isTextOrNull = true) :
    Asks (Effect.SetsAmong [key]) (Task.setVariable key value : Task E RunError Unit) := by
  refine .ask ?_ fun _ => .ended _
  intro other value' h
  cases h
  exact ⟨List.mem_singleton_self _, hvalue⟩

theorem asks_log (message : String) :
    Asks (Effect.SetsAmong keys) (Task.log message : Task E RunError Unit) :=
  .ask (fun _ _ => nofun) fun _ => .ended _

theorem asks_callOrStop (c : Call E) : Asks (Effect.SetsAmong keys) (Task.callOrStop c) :=
  (Asks.call fun _ _ => nofun).mapError _

theorem Prelude.setsAmong {α : Type} {own : Panic → Prop} {t : Task E RunError α}
    (ht : Prelude own t) : Asks (Effect.SetsAmong keys) t :=
  ht.silent.mono fun _ => Effect.setsAmong_of_writes_eq_false

theorem setsAmong_variableText (key : String) : Asks (Effect.SetsAmong keys)
    (variableText key : Task E RunError String) :=
  have hprelude : Prelude (fun _ => False) (variableText key : Task E RunError String) :=
    prelude_variableText key
  hprelude.setsAmong

theorem setsAmong_awaitElement (wait : WaitPolicy) (kind target : String) :
    Asks (Effect.SetsAmong keys) (awaitElement wait kind target : Task E RunError E) :=
  have hprelude : Prelude (fun _ => False) (awaitElement wait kind target : Task E RunError E) :=
    prelude_awaitElement kind target
  hprelude.setsAmong

/-- An instruction sets the variable that it names, if any. -/
theorem asks_execute (wait : WaitPolicy) (chain : Option (Chain E)) (i : Instruction) :
    Asks (Effect.SetsAmong i.writes?.toList) (execute wait chain i) := by
  cases i with
  | baseUrl url =>
      refine .bind ?_ fun _ => .pure chain
      unfold setBase
      split
      · exact (setsAmong_variableText _).bind fun _ => asks_setVariable rfl
      · exact asks_setVariable rfl
  | setVariable key value => exact (asks_setVariable rfl).bind fun _ => .pure chain
  | randomSsn key =>
      refine .bind (.ask (fun _ _ => nofun) fun _ => .ended _) fun n => ?_
      exact (asks_setVariable rfl).bind fun _ => .pure chain
  | storeAttribute kind target name key =>
      refine (setsAmong_awaitElement wait kind target).bind fun _ => ?_
      refine (asks_callOrStop _).bind fun value => ?_
      refine (asks_setVariable ?_).bind fun _ => .pure chain
      cases value <;> rfl
  | storeText kind target key =>
      refine (setsAmong_awaitElement wait kind target).bind fun _ => ?_
      exact (asks_callOrStop _).bind fun text => (asks_setVariable rfl).bind fun _ => .pure chain
  | log message => exact (asks_log message).bind fun _ => .pure chain
  | logVariable key =>
      exact (setsAmong_variableText key).bind fun text => (asks_log text).bind fun _ => .pure chain
  | _ => exact (prelude_execute wait chain rfl).setsAmong

/-- It does so last. -/
theorem assignsLast_execute (wait : WaitPolicy) (chain : Option (Chain E)) (i : Instruction) :
    AssignsLast i.writes?.toList (execute wait chain i) where
  asks := asks_execute wait chain i
  nothing steps x h hx s hs :=
    Effect.setsAmong_of_writes_eq_false (writesLast_execute wait chain i steps x h hx s hs)

/-! ## Actions -/

theorem setsAmong_announce (action : Action) :
    Asks (Effect.SetsAmong keys) (announce action : Task E RunError Unit) := by
  refine .bind (.ask (fun _ _ => nofun) fun _ => .ended _) fun store => ?_
  split
  · exact asks_log _
  · exact .pure ()

theorem assignsLast_runAction (wait : WaitPolicy) (chain : Option (Chain E)) (action : Action) :
    AssignsLast action.writes?.toList (runAction wait chain action) := by
  rw [runAction_eq]
  refine .after (.ask (fun _ _ => nofun) fun _ => .ended _) fun cancelled => ?_
  cases cancelled with
  | true => exact .fail _
  | false =>
      refine .after (setsAmong_announce action) fun _ => ?_
      cases hinstruction : action.instruction with
      | error e => exact .fail e
      | ok i =>
          have hwrites : action.writes? = i.writes? := by rw [Action.writes?, hinstruction]
          rw [hwrites]
          exact assignsLast_execute wait chain i

theorem setsAmong_settle (settings : PageSettings) (left : Nat) :
    Asks (Effect.SetsAmong keys) (settle settings left : Task E RunError Unit) := by
  refine .bind (.ask (fun _ _ => nofun) fun _ => .ended _) fun _ => ?_
  split
  · exact .ask (fun _ _ => nofun) fun _ => .ended _
  · exact .pure ()

/-! ## Pages -/

/-- The actions of a page that are completed if it is run in a world. -/
def completed (settings : PageSettings) (w : World) (chain : Option (Chain Handle)) :
    List Action → List Action
  | [] => []
  | action :: left =>
    match w.run (runAction settings.wait chain action) with
    | (.value chain, v) =>
      action :: completed settings
        (v.run (settle settings left.length : Task Handle RunError Unit)).2 chain left
    | _ => []

/-- A page goes on after an action that ended with a value. -/
theorem trace_runActions_cons (settings : PageSettings) (w : World)
    (chain : Option (Chain Handle)) (action : Action) (left : List Action) :
    w.trace (runActions settings chain (action :: left)) =
      w.trace (runAction settings.wait chain action) ++
        match w.run (runAction settings.wait chain action) with
        | (.value chain, v) =>
          v.trace (settle settings left.length : Task Handle RunError Unit) ++
            (v.run (settle settings left.length : Task Handle RunError Unit)).2.trace
              (runActions settings chain left)
        | _ => [] := by
  rw [runActions, World.trace_bind]
  rcases w.run (runAction settings.wait chain action) with ⟨chain | e | p, v⟩
  · have hsettled := run_settle v settings left.length
    simp only [World.trace_bind]
    generalize v.run (settle settings left.length : Task Handle RunError Unit) = r at hsettled ⊢
    obtain ⟨x, u⟩ := r
    obtain rfl : x = .value () := hsettled
    rfl
  · rfl
  · rfl

theorem filterMap_writes?_cons (action : Action) (left : List Action) :
    (action :: left).filterMap Action.writes? =
      action.writes?.toList ++ left.filterMap Action.writes? := by
  cases h : action.writes? <;> simp [h]

/-- A page sets variables that its completed actions name, and no others. -/
theorem setsAmong_of_mem_trace (settings : PageSettings) (w : World)
    (chain : Option (Chain Handle)) (actions : List Action) :
    ∀ s ∈ w.trace (runActions settings chain actions),
      s.request.SetsAmong ((completed settings w chain actions).filterMap Action.writes?) := by
  induction actions generalizing w chain with
  | nil => exact List.forall_mem_nil _
  | cons action left ih =>
      have haction := assignsLast_runAction settings.wait chain action
      have hends := w.ends_trace (runAction settings.wait chain action)
      rw [trace_runActions_cons, completed]
      rcases hran : w.run (runAction settings.wait chain action) with ⟨chain' | e | p, v⟩
      · -- the action is completed, its delays pass, and the page goes on
        refine List.forall_mem_append.mpr ⟨fun s hs => ?_, List.forall_mem_append.mpr ⟨?_, ?_⟩⟩
        · refine (haction.asks _ _ hends s hs).mono ?_
          rw [filterMap_writes?_cons]
          exact List.subset_append_left _ _
        · exact setsAmong_settle settings left.length _ _ (v.ends_trace _)
        · intro s hs
          refine (ih _ chain' s hs).mono ?_
          rw [filterMap_writes?_cons]
          exact List.subset_append_right _ _
      · rw [hran] at hends
        simp only [List.append_nil]
        exact haction.nothing _ _ hends nofun
      · rw [hran] at hends
        simp only [List.append_nil]
        exact haction.nothing _ _ hends nofun

/-- The completed actions are the first ones of a page, and all of them exactly if the page is
completed. -/
theorem completed_initial (settings : PageSettings) (w : World) (chain : Option (Chain Handle))
    (actions : List Action) :
    completed settings w chain actions <+: actions ∧
      (completed settings w chain actions = actions ↔
        (w.run (runActions settings chain actions)).1 = .value ()) := by
  induction actions generalizing w chain with
  | nil => exact ⟨List.prefix_rfl, by simp [completed]; rfl⟩
  | cons action left ih =>
      rw [completed, run_runActions_cons]
      rcases w.run (runAction settings.wait chain action) with ⟨chain' | e | p, v⟩
      · obtain ⟨hinitial, hall⟩ := ih (v.run (settle settings left.length)).2 chain'
        refine ⟨List.cons_prefix_cons.mpr ⟨rfl, hinitial⟩, ?_⟩
        simpa using hall
      · simp
      · simp

end PageRun

open PageRun in
/-- However a page ends, it sets only variables that its completed actions name, and these to
texts or to null.  So no variable is lost, all the others are as they were, and a run that was
no debug run has not become one. -/
theorem page_sets_named_variables (settings : PageSettings) (w : World) (page : Page) :
    let done := completed settings w none page.actions
    let named := done.filterMap Action.writes?
    let after := (w.run (page.run settings)).2.store
    (done <+: page.actions ∧ (done = page.actions ↔ (w.run (page.run settings)).1 = .value ())) ∧
      (∀ s ∈ w.trace (page.run settings), ∀ key value,
        s.request = .setVariable key value → key ∈ named ∧ value.isTextOrNull = true) ∧
      (∀ key, w.store.get? key ≠ none → after.get? key ≠ none) ∧
      (∀ key, key ∉ named → after.get? key = w.store.get? key) ∧
      (after.flag "debug" = true → w.store.flag "debug" = true) := by
  intro done named after
  have htrace : ∀ s ∈ w.trace (page.run settings), s.request.SetsAmong named :=
    setsAmong_of_mem_trace settings w none page.actions
  have hafter : ∀ key, after.get? key = w.store.get? key ∨
      key ∈ named ∧ ∃ value, after.get? key = some value ∧ value.isTextOrNull = true := by
    intro key
    have h := Task.get?_assigned htrace w.store key
    rwa [← World.store_run] at h
  refine ⟨completed_initial settings w none page.actions, htrace, fun key hkey => ?_,
    fun key hkey => ?_, fun hdebug => ?_⟩
  · rcases hafter key with hkept | ⟨-, value, hvalue, -⟩
    · rwa [hkept]
    · simp [hvalue]
  · rcases hafter key with hkept | ⟨hnamed, -⟩
    · exact hkept
    · exact absurd hnamed hkey
  · rcases hafter "debug" with hkept | ⟨-, value, hvalue, htext⟩
    · rwa [Store.flag, hkept] at hdebug
    · -- a text or null is not true
      unfold Store.flag at hdebug
      rw [hvalue] at hdebug
      cases value with
      | bool b => cases htext
      | _ => cases hdebug

/-- A page that sets `debug`, reads an attribute that is not there, and stops at a text that it
does not find. -/
def meddling : Page :=
  ⟨"p", [⟨"set", ["debug", "true"], 1⟩, ⟨"store_attribute", ["id", "ok", "title", "shown"], 2⟩,
    ⟨"store_text", ["id", "gone", "late"], 3⟩]⟩

/-- A debug run with a variable of its own. -/
def watched : World :=
  let browser := Scripted.blank.addElement ⟨"id=ok", 0, "", [], [], 0, false, 0⟩
  ⟨.start browser none 0, (Store.empty.set "debug" (.bool true)).set "late" (.int 7), []⟩

open PageRun in
/-- What was set to the text `true` is no debug run any more, and the variable of the action
that failed is as it was. -/
theorem page_sets_named_variables_watched :
    let settings : PageSettings := ⟨0, 0, ⟨500, 100, by decide⟩⟩
    let after := (watched.run (meddling.run settings)).2.store
    completed settings watched none meddling.actions = meddling.actions.take 2 ∧
      after.get? "late" = watched.store.get? "late" ∧
      after.text? "shown" = some "null" ∧ after.flag "debug" = false := by
  intro settings after
  obtain ⟨-, -, -, hothers, -⟩ := page_sets_named_variables settings watched meddling
  exact ⟨by decide +kernel, hothers "late" (by decide +kernel), by decide +kernel,
    by decide +kernel⟩

end BrowserSuite
