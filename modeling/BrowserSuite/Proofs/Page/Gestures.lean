import BrowserSuite.Proofs.Page.Faults
import BrowserSuite.Proofs.Page.Mistakes
import BrowserSuite.Proofs.Page.Stints

/-!
# Chains are performed as written

A page collects the steps of a gesture in a chain, and the chain is a hidden state: which steps an
action performs depends on all the actions before it.  Here the chain is read off what a page has
visibly done.  `Stint.operation?` says what an action does to the chain, judging by the action and
by the element that it has found, and `OpenWith` says which steps have been collected since a chain
was last started, if it has not been performed.

One action takes the chain that it finds to the chain that it leaves (`PageRun.OnChain`), so that
the pending chain is always the one that is open (`Pending.snoc`).  Then every action makes the
gestures that are written (`AsWritten`), and only an action that needs a chain and finds none open
ends the page for want of a chain (`chains_are_performed_as_written`).
-/

namespace BrowserSuite

/-! ## What is asked and found -/

namespace Task

variable {E : Type} {steps first rest : List (Step E)}

/-- The gestures that are made on a path, each as the list of its steps. -/
def gestures (steps : List (Step E)) : List (List (Gesture E)) :=
  steps.filterMap (·.request.gesture?)

@[simp] theorem gestures_append : gestures (first ++ rest) = gestures first ++ gestures rest :=
  List.filterMap_append ..

theorem gestures_eq_nil {ε α : Type} {t : Task E ε α} (ht : Asks (·.gesture? = none) t)
    {x : Ending ε α} (h : t.Ends steps x) : gestures steps = [] :=
  List.filterMap_eq_nil_iff.mpr (ht _ _ h)

/-- The element that a look-up has found. -/
def Step.found? (s : Step E) : Option E :=
  match s with
  | ⟨.call (.find _), .value element⟩ => some element
  | _ => none

/-- The first element that is found on a path. -/
def found? (steps : List (Step E)) : Option E := steps.findSome? Step.found?

@[simp] theorem found?_append : found? (first ++ rest) = (found? first).or (found? rest) :=
  List.findSome?_append

/-- What does not ask the session makes no gesture and finds nothing. -/
theorem idle_of_no_call {ε α : Type} {t : Task E ε α} (ht : Asks (fun r => ∀ c, r ≠ .call c) t)
    {x : Ending ε α} (h : t.Ends steps x) : gestures steps = [] ∧ found? steps = none := by
  constructor
  · refine gestures_eq_nil (ht.mono fun r hr => ?_) h
    unfold Effect.gesture?
    split
    · exact absurd rfl (hr _)
    · rfl
  · refine List.findSome?_eq_none_iff.mpr fun s hs => ?_
    have hr := ht _ _ h s hs
    unfold Step.found?
    split
    · exact absurd rfl (hr _)
    · rfl

end Task

namespace WaitPolicy

variable {E : Type} {p : WaitPolicy} {awaited : String} {deadline fuel : Nat} {l : Locator}
  {steps : List (Task.Step E)} {x : Ending RunError E}

/-- After an attempt that failed, polling fails without another call, or it goes on after a
pause. -/
theorem ends_follow_failed {later : Task E RunError E} {e : BrowserError}
    (h : (follow p awaited deadline later (.failed e)).Ends steps x) :
    (Task.found? steps = none ∧ ∃ err, x = .failed err) ∨
      ∃ now time more, steps = ⟨.now, now⟩ :: ⟨.sleepUntil time, ()⟩ :: more ∧
        later.Ends more x := by
  by_cases htransient : e.isTransient = true
  · have hfollow : follow p awaited deadline later (.failed e) =
        Program.ask .now (pause p awaited deadline later) := if_pos htransient
    rw [hfollow] at h
    obtain ⟨now, rest, rfl, hrest⟩ := Program.leads_ask_done_iff.mp h
    change Task.Ends (pause p awaited deadline later now) rest x at hrest
    unfold pause at hrest
    by_cases hdeadline : deadline ≤ now
    · rw [if_pos hdeadline] at hrest
      obtain ⟨rfl, rfl⟩ := Task.ends_ended_iff.mp hrest
      exact .inl ⟨rfl, _, rfl⟩
    · rw [if_neg hdeadline] at hrest
      obtain ⟨_, more, rfl, hmore⟩ := Program.leads_ask_done_iff.mp hrest
      exact .inr ⟨now, _, more, rfl, hmore⟩
  · have hfollow : follow p awaited deadline later (.failed e) =
        Task.fail (RunError.ofBrowser e) := if_neg htransient
    rw [hfollow] at h
    obtain ⟨rfl, rfl⟩ := Task.ends_ended_iff.mp h
    exact .inl ⟨rfl, _, rfl⟩

/-- Polling for an element ends with the one that is found, if one is. -/
theorem found?_of_ends_attempts
    (h : (p.attempts (Task.call (.find l)) awaited deadline fuel).Ends steps x) (element : E) :
    Task.found? steps = some element ↔ x = .value element := by
  induction fuel generalizing steps with
  | zero =>
      obtain ⟨rfl, rfl⟩ := Task.ends_ended_iff.mp h
      simp [Task.found?]
  | succ fuel ih =>
      rw [attempts_succ] at h
      obtain ⟨first, rest, y, rfl, hfirst, hrest⟩ := Program.leads_bind_done_iff.mp h
      obtain rfl := Task.ends_call_iff.mp hfirst
      cases y with
      | value found =>
          obtain ⟨rfl, rfl⟩ := Task.ends_ended_iff.mp hrest
          simp [Task.found?, Task.Step.found?]
      | panicked q =>
          obtain ⟨rfl, rfl⟩ := Task.ends_ended_iff.mp hrest
          simp [Task.found?, Task.Step.found?]
      | failed e =>
          change Task.found? rest = some element ↔ _
          rcases ends_follow_failed hrest with ⟨hnone, err, rfl⟩ | ⟨now, time, more, rfl, hmore⟩
          · rw [hnone]
            exact ⟨nofun, nofun⟩
          · change Task.found? more = some element ↔ _
            exact ih hmore

end WaitPolicy

/-- The gestures that performing a chain makes: none if it has no steps. -/
def Chain.gestures {E : Type} (c : Chain E) : List (List (Gesture E)) :=
  if c.pending.isEmpty then [] else [c.pending]

/-- The operation on the chain that an instruction stands for.  A step to an element needs the
element to be found. -/
def Instruction.operation? {E : Type} (found : Option E) : Instruction → Option (Chain.Operation E)
  | gestureNew => some .restart
  | gestureMove _ _ => found.map fun element => .add (.moveTo element)
  | gestureClick => some (.add .click)
  | gestureKeys names =>
    match PageRun.keyCodes names with
    | .ok codes => some (.add (.keys codes))
    | .error _ => none
  | gesturePerform => some .perform
  | _ => none

namespace Stint

variable {E : Type}

/-- The operation on the chain that the action stands for. -/
def operation? (d : Stint E) : Option (Chain.Operation E) :=
  match d.action.instruction with
  | .ok i => i.operation? (Task.found? d.steps)
  | .error _ => none

/-- The step that the action adds to the chain. -/
def added? (d : Stint E) : Option (Gesture E) :=
  match d.operation? with
  | some (.add step) => some step
  | _ => none

end Stint

namespace PageRun

variable {E : Type} {settings : PageSettings} {wait : WaitPolicy} {chain : Option (Chain E)}
  {action : Action} {i : Instruction} {steps : List (Task.Step E)}
  {y : Ending RunError (Option (Chain E))}

/-! ## One action on the chain -/

/-- An ending that leaves this chain if it is a value, and that is no want of a chain. -/
structure Leaves (chain : Option (Chain E)) (y : Ending RunError (Option (Chain E))) : Prop where
  value : ∀ chain', y = .value chain' → chain' = chain
  started : y ≠ .failed .chainNotStarted

theorem Leaves.value_self (chain : Option (Chain E)) : Leaves chain (.value chain) :=
  ⟨fun _ h => (Ending.value.inj h).symm, nofun⟩

theorem Leaves.failed {e : RunError} (he : e ≠ .chainNotStarted) : Leaves chain (.failed e) :=
  ⟨nofun, fun h => he (Ending.failed.inj h)⟩

theorem Leaves.panicked (p : Panic) : Leaves chain (.panicked p) := ⟨nofun, nofun⟩

/-- What an action does that stands for an operation, by the chain that it finds: the gestures that
it makes and how it ends. -/
inductive OnChain : Option (Chain.Operation E) → Option (Chain E) → List (List (Gesture E)) →
    Ending RunError (Option (Chain E)) → Prop
  | restart (chain : Option (Chain E)) :
      OnChain (some .restart) chain [] (.value (some Chain.empty))
  | add (step : Gesture E) (c : Chain E) :
      OnChain (some (.add step)) (some c) [] (.value (some (c.add step)))
  | perform (c : Chain E) {y : Ending RunError (Option (Chain E))} (hy : Leaves none y) :
      OnChain (some .perform) (some c) c.gestures y
  | unopened {op : Chain.Operation E} (hop : op ≠ .restart) :
      OnChain (some op) none [] (.failed .chainNotStarted)
  | aside {chain : Option (Chain E)} {y : Ending RunError (Option (Chain E))}
      (hy : Leaves chain y) : OnChain none chain [] y

theorem found?_awaitElement {kind target : String} {x : Ending RunError E}
    (h : (awaitElement wait kind target).Ends steps x) (element : E) :
    Task.found? steps = some element ↔ x = .value element := by
  unfold awaitElement at h
  cases hlocator : locator kind target with
  | error e =>
      rw [hlocator] at h
      obtain ⟨rfl, rfl⟩ := Task.ends_ended_iff.mp h
      simp [Task.found?]
  | ok l =>
      rw [hlocator] at h
      obtain ⟨start, rest, rfl, hrest⟩ := Program.leads_ask_done_iff.mp h
      exact WaitPolicy.found?_of_ends_attempts hrest element

theorem found?_of_failed {kind target : String} {x : Ending RunError E}
    (h : (awaitElement wait kind target).Ends steps x) (hx : ∀ element, x ≠ .value element) :
    Task.found? steps = none :=
  Option.eq_none_iff_forall_ne_some.mpr fun element hfound =>
    hx element ((found?_awaitElement h element).mp hfound)

/-- A step is added to the chain that has been started. -/
theorem onChain_add {step : Gesture E}
    (h : (started chain >>= fun c => pure (some (c.add step))).Ends steps y) :
    OnChain (some (.add step)) chain (Task.gestures steps) y := by
  cases chain with
  | none =>
      obtain ⟨rfl, rfl⟩ := Task.ends_ended_iff.mp h
      exact .unopened nofun
  | some c =>
      obtain ⟨rfl, rfl⟩ := Task.ends_ended_iff.mp h
      exact .add step c

theorem gestures_of_ends_perform {c : Chain E} {x : Ending RunError Unit}
    (h : (c.perform.mapError RunError.ofBrowser).Ends steps x) :
    Task.gestures steps = c.gestures ∧ x ≠ .failed .chainNotStarted := by
  obtain ⟨made, hmade, rfl⟩ := Task.ends_mapError_iff.mp h
  constructor
  · rw [Chain.perform_eq] at hmade
    unfold Chain.gestures
    split at hmade
    · rename_i hempty
      obtain ⟨rfl, -⟩ := Task.ends_ended_iff.mp hmade
      rw [if_pos hempty]
      rfl
    · rename_i hsome
      obtain rfl := Task.ends_call_iff.mp hmade
      rw [if_neg hsome]
      rfl
  · cases made with
    | failed e => cases e <;> nofun
    | _ => nofun

/-- The chain that has been started is performed and gone. -/
theorem onChain_perform (h : (execute wait chain .gesturePerform).Ends steps y) :
    OnChain (some .perform) chain (Task.gestures steps) y := by
  cases chain with
  | none =>
      obtain ⟨rfl, rfl⟩ := Task.ends_ended_iff.mp h
      exact .unopened nofun
  | some c =>
      have hperform : execute wait (some c) .gesturePerform =
          c.perform.mapError RunError.ofBrowser >>= fun _ => pure none := rfl
      rw [hperform] at h
      rcases Task.ends_bind_cases h with
        ⟨first, rest, u, rfl, hfirst, hrest⟩ | ⟨e, rfl, hfirst⟩ | ⟨p, rfl, hfirst⟩
      · obtain ⟨rfl, rfl⟩ := Task.ends_ended_iff.mp hrest
        rw [List.append_nil, (gestures_of_ends_perform hfirst).1]
        exact .perform c (.value_self none)
      · obtain ⟨hmade, hne⟩ := gestures_of_ends_perform hfirst
        rw [hmade]
        exact .perform c (.failed fun he => hne (he ▸ rfl))
      · rw [(gestures_of_ends_perform hfirst).1]
        exact .perform c (.panicked p)

/-- Any other instruction has nothing to do with the chain. -/
theorem onChain_aside (hi : i.isOnChain = false) (h : (execute wait chain i).Ends steps y) :
    OnChain none chain (Task.gestures steps) y := by
  have haloof := aloof_execute hi wait chain
  rw [Task.gestures_eq_nil haloof.asks h]
  refine .aside ⟨?_, ?_⟩
  · rintro chain' rfl
    exact chain_of_execute hi h
  · rintro rfl
    exact haloof.failsWith _ _ h rfl

theorem onChain_execute (h : (execute wait chain i).Ends steps y) :
    OnChain (i.operation? (Task.found? steps)) chain (Task.gestures steps) y := by
  cases i with
  | gestureNew =>
      obtain ⟨rfl, rfl⟩ := Task.ends_ended_iff.mp h
      exact .restart chain
  | gestureClick => exact onChain_add h
  | gesturePerform => exact onChain_perform h
  | gestureKeys names =>
      rw [Instruction.operation?]
      cases hcodes : keyCodes names with
      | ok codes =>
          have hadd : execute wait chain (.gestureKeys names) =
              started chain >>= fun c => pure (some (c.add (.keys codes))) := by
            simp only [execute, hcodes, orStop, pure_bind]
          rw [hadd] at h
          exact onChain_add h
      | error e =>
          have hfails : execute wait chain (.gestureKeys names) = Task.fail e := by
            simp only [execute, hcodes]
            rfl
          rw [hfails] at h
          obtain ⟨rfl, rfl⟩ := Task.ends_ended_iff.mp h
          have hcause : e ≠ .chainNotStarted := by
            have haloof : Task.Aloof (orStop (keyCodes names) : Task E RunError String) :=
              aloof_orStop (madeOf_keyCodes names)
            rw [hcodes] at haloof
            exact haloof.failsWith [] e (Task.ends_ended_iff.mpr ⟨rfl, rfl⟩)
          exact .aside (.failed hcause)
  | gestureMove kind target =>
      rw [Instruction.operation?]
      have haloof : Task.Aloof (awaitElement wait kind target : Task E RunError E) :=
        aloof_awaitElement kind target
      rcases Task.ends_bind_cases h with
        ⟨first, rest, element, rfl, hfirst, hrest⟩ | ⟨e, rfl, hfirst⟩ | ⟨p, rfl, hfirst⟩
      · have hfound := (found?_awaitElement hfirst element).mpr rfl
        rw [Task.found?_append, hfound, Task.gestures_append,
          Task.gestures_eq_nil haloof.asks hfirst]
        exact onChain_add hrest
      · -- no element was found, so no step is added
        rw [found?_of_failed hfirst (by simp), Task.gestures_eq_nil haloof.asks hfirst]
        exact .aside (.failed (haloof.failsWith _ _ hfirst))
      · rw [found?_of_failed hfirst (by simp), Task.gestures_eq_nil haloof.asks hfirst]
        exact .aside (.panicked p)
  | _ => exact onChain_aside rfl h

/-- A faulty action fails for what it is. -/
theorem ne_chainNotStarted_of_instruction {e : RunError} (h : action.instruction = .error e) :
    e ≠ .chainNotStarted := by
  unfold Action.instruction at h
  split at h
  · cases h
    nofun
  · split at h <;> cases h
    nofun

/-- What is asked for an action acts on the chain as the action does that is read off it, whatever
follows that does not ask the session. -/
theorem onChain_carryOut {pause : List (Task.Step E)}
    (h : (carryOut wait chain action).Ends steps y) (hpause : Task.gestures pause = [])
    (hfound : Task.found? pause = none) :
    OnChain (Stint.operation? ⟨action, steps ++ pause⟩) chain (Task.gestures (steps ++ pause))
      y := by
  have hannounce : Task.Asks (fun r => ∀ c, r ≠ .call c)
      (announce action : Task E RunError Unit) := asks_announce nofun (fun _ => nofun) action
  rcases Task.ends_bind_cases h with
    ⟨first, rest, u, rfl, hfirst, hrest⟩ | ⟨e, -, hfailed⟩ | ⟨q, -, hpanicked⟩
  · obtain ⟨hsilent, hnothing⟩ := Task.idle_of_no_call hannounce hfirst
    unfold Stint.operation?
    rw [Task.found?_append, Task.found?_append, hnothing, hfound, Task.gestures_append,
      Task.gestures_append, hsilent, hpause]
    cases hinstruction : action.instruction with
    | error e =>
        rw [hinstruction] at hrest
        obtain ⟨rfl, rfl⟩ := Task.ends_ended_iff.mp hrest
        exact .aside (.failed (ne_chainNotStarted_of_instruction hinstruction))
    | ok i =>
        rw [hinstruction] at hrest
        have hexecuted := onChain_execute (i := i) hrest
        simpa using hexecuted
  · cases ends_announce hfailed
  · cases ends_announce hpanicked

end PageRun

/-! ## The chain that is open -/

section Open

variable {E : Type} {done : List (Stint E)} {d : Stint E} {steps : List (Gesture E)}

/-- After some actions a chain is open in which these steps have been collected: the last action
that started a chain has not been followed by one that performed it, and the steps are those that
have been added since. -/
def OpenWith (done : List (Stint E)) (steps : List (Gesture E)) : Prop :=
  ∃ before new since, done = before ++ new :: since ∧ new.operation? = some .restart ∧
    (∀ d ∈ since, d.operation? ≠ some .restart ∧ d.operation? ≠ some .perform) ∧
    since.filterMap Stint.added? = steps

theorem not_openWith_nil : ¬OpenWith ([] : List (Stint E)) steps := by
  rintro ⟨before, new, since, hsplit, -⟩
  simp at hsplit

/-- The last action opens a chain itself, or it leaves one open and may have added a step. -/
theorem openWith_snoc_iff :
    OpenWith (done ++ [d]) steps ↔
      (d.operation? = some .restart ∧ steps = []) ∨
        (d.operation? ≠ some .restart ∧ d.operation? ≠ some .perform) ∧
          ∃ earlier, OpenWith done earlier ∧ steps = earlier ++ d.added?.toList := by
  constructor
  · rintro ⟨before, new, since, hsplit, hnew, hsince, rfl⟩
    rcases List.eq_nil_or_concat since with rfl | ⟨since, last, rfl⟩
    · obtain ⟨-, ⟨⟩⟩ := List.append_inj' hsplit rfl
      exact .inl ⟨hnew, rfl⟩
    · rw [List.concat_eq_append] at hsplit hsince ⊢
      have hwhole : done ++ [d] = (before ++ new :: since) ++ [last] := by simpa using hsplit
      obtain ⟨rfl, ⟨⟩⟩ := List.append_inj' hwhole rfl
      obtain ⟨hearlier, hlast⟩ := List.forall_mem_append.mp hsince
      refine .inr ⟨hlast d (List.mem_singleton_self d), _,
        ⟨before, new, since, rfl, hnew, hearlier, rfl⟩, ?_⟩
      rw [List.filterMap_append]
      cases hadded : d.added? <;> simp [hadded]
  · rintro (⟨hnew, rfl⟩ | ⟨hd, earlier, ⟨before, new, since, rfl, hnew, hsince, rfl⟩, rfl⟩)
    · exact ⟨done, d, [], rfl, hnew, nofun, rfl⟩
    · refine ⟨before, new, since ++ [d], by simp, hnew, ?_, ?_⟩
      · exact List.forall_mem_append.mpr ⟨hsince, List.forall_mem_singleton.mpr hd⟩
      · rw [List.filterMap_append]
        cases hadded : d.added? <;> simp [hadded]

/-- The pending chain of a page is the one that the actions so far have left open. -/
def Pending (done : List (Stint E)) (chain : Option (Chain E)) : Prop :=
  ∀ steps, chain = some ⟨steps⟩ ↔ OpenWith done steps

theorem pending_nil : Pending ([] : List (Stint E)) none :=
  fun _ => ⟨nofun, fun h => (not_openWith_nil h).elim⟩

/-- An action needs a chain, and none is open. -/
def Unopened (done : List (Stint E)) (d : Stint E) : Prop :=
  (∃ op, d.operation? = some op ∧ op ≠ .restart) ∧ ∀ steps, ¬OpenWith done steps

/-- The gestures of an action are those that are written: performing a chain makes one gesture of
the steps that have been collected in it, if there are any, and nothing else makes a gesture. -/
structure AsWritten (done : List (Stint E)) (d : Stint E) : Prop where
  performed : d.operation? = some .perform → ∀ steps, OpenWith done steps →
    Task.gestures d.steps = if steps.isEmpty then [] else [steps]
  idle : d.operation? ≠ some .perform ∨ (∀ steps, ¬OpenWith done steps) →
    Task.gestures d.steps = []

open PageRun (OnChain)

variable {chain chain' : Option (Chain E)} {y : Ending RunError (Option (Chain E))}

/-- One action takes the chain from what was pending before it to what is pending after it. -/
theorem Pending.snoc (hpending : Pending done chain)
    (h : OnChain d.operation? chain (Task.gestures d.steps) (.value chain')) :
    Pending (done ++ [d]) chain' := by
  intro steps
  rw [openWith_snoc_iff, Stint.added?]
  generalize d.operation? = op at h
  generalize Task.gestures d.steps = made at h
  cases h with
  | restart =>
      constructor
      · rintro ⟨⟩
        exact .inl ⟨rfl, rfl⟩
      · rintro (⟨-, rfl⟩ | ⟨⟨hne, -⟩, -⟩)
        · rfl
        · exact absurd rfl hne
  | add step c =>
      constructor
      · rintro ⟨⟩
        exact .inr ⟨⟨nofun, nofun⟩, c.pending, (hpending c.pending).mp rfl, rfl⟩
      · rintro (⟨hne, -⟩ | ⟨-, earlier, hearlier, rfl⟩)
        · cases hne
        · cases (hpending earlier).mpr hearlier
          rfl
  | perform c hy =>
      cases hy.value chain' rfl
      constructor
      · nofun
      · rintro (⟨hne, -⟩ | ⟨⟨-, hne⟩, -⟩)
        · cases hne
        · exact absurd rfl hne
  | aside hy =>
      cases hy.value chain' rfl
      constructor
      · intro hchain
        exact .inr ⟨⟨nofun, nofun⟩, steps, (hpending steps).mp hchain, (List.append_nil _).symm⟩
      · rintro (⟨hne, -⟩ | ⟨-, earlier, hearlier, rfl⟩)
        · cases hne
        · exact (hpending _).mpr (by simpa using hearlier)

/-- An action does what is written, and it fails for want of a chain exactly if it needs one and
none is open. -/
theorem Pending.asWritten (hpending : Pending done chain)
    (h : OnChain d.operation? chain (Task.gestures d.steps) y) :
    AsWritten done d ∧ (y = .failed .chainNotStarted ↔ Unopened done d) := by
  have hopened : ∀ c, chain = some c → ¬Unopened done d :=
    fun c hc ⟨_, hnone⟩ => hnone c.pending ((hpending c.pending).mp hc)
  generalize hop : d.operation? = op at h
  generalize hmade : Task.gestures d.steps = made at h
  cases h with
  | restart =>
      refine ⟨⟨by simp [hop], fun _ => hmade⟩, nofun, ?_⟩
      rintro ⟨⟨op, hd, hne⟩, -⟩
      cases hop.symm.trans hd
      exact absurd rfl hne
  | add step c =>
      exact ⟨⟨by simp [hop], fun _ => hmade⟩, nofun, fun h => (hopened c rfl h).elim⟩
  | perform c hy =>
      refine ⟨⟨fun _ steps hsteps => ?_, ?_⟩, fun h => (hy.started h).elim,
        fun h => (hopened c rfl h).elim⟩
      · cases (hpending steps).mpr hsteps
        exact hmade
      · rintro (hne | hnone)
        · exact (hne hop).elim
        · exact (hnone c.pending ((hpending c.pending).mp rfl)).elim
  | unopened hne =>
      have hnone : ∀ steps, ¬OpenWith done steps := fun steps h => nomatch (hpending steps).mpr h
      exact ⟨⟨fun _ steps h => (hnone steps h).elim, fun _ => hmade⟩,
        fun _ => ⟨⟨_, hop, hne⟩, hnone⟩, fun _ => rfl⟩
  | aside hy =>
      refine ⟨⟨by simp [hop], fun _ => hmade⟩, fun h => (hy.started h).elim, ?_⟩
      rintro ⟨⟨op, hd, -⟩, -⟩
      cases hop.symm.trans hd

end Open

namespace PageRun

variable {E : Type} {settings : PageSettings} {chain : Option (Chain E)} {past : List (Stint E)}
  {actions : List Action} {steps : List (Task.Step E)} {x : Ending RunError Unit}

/-! ## Pages -/

theorem idle_settle {left : Nat}
    (h : (settle settings left : Task E RunError Unit).Ends steps (.value ())) :
    Task.gestures steps = [] ∧ Task.found? steps = none := by
  have hsleep : ∀ ms (c : Call E), Effect.sleep ms ≠ .call c := fun _ _ => nofun
  refine Task.idle_of_no_call (.bind (.ask (hsleep _) fun _ => .ended _) fun _ => ?_) h
  split
  · exact .ask (hsleep _) fun _ => .ended _
  · exact .pure ()

/-- All gestures of a page are made by its actions. -/
theorem gestures_of_ends (h : (runActions settings chain actions).Ends steps x) :
    Task.gestures steps = (stints actions steps).flatMap fun d => Task.gestures d.steps := by
  induction actions generalizing chain steps with
  | nil =>
      obtain ⟨rfl, -⟩ := Task.ends_ended_iff.mp h
      rfl
  | cons action left ih =>
      rcases runActions_cons_stints h with ⟨rfl, -, hnone⟩ | ⟨body, y, rfl, -, -, hone⟩ |
        ⟨body, pause, more, chain', rfl, -, -, hmore, hmany⟩
      · rw [hnone]
        rfl
      · rw [hone, List.flatMap_singleton]
        rfl
      · rw [hmany, List.flatMap_cons, ← ih hmore]
        exact Task.gestures_append

/-- The action that stopped a page, on the chain that was pending before it. -/
theorem asWritten_of_stopped {action : Action} {y : Ending RunError (Option (Chain E))}
    (hpast : Pending past chain) (h : (carryOut settings.wait chain action).Ends steps y)
    (hstops : y.Stops x) :
    AsWritten past ⟨action, steps⟩ ∧
      (x = .failed .chainNotStarted ↔ Unopened past ⟨action, steps⟩) := by
  have hacts : OnChain (Stint.operation? ⟨action, steps ++ []⟩) chain
      (Task.gestures (steps ++ [])) y := onChain_carryOut h rfl rfl
  rw [List.append_nil] at hacts
  obtain ⟨hwritten, hwant⟩ := hpast.asWritten hacts
  refine ⟨hwritten, ?_⟩
  rw [← hwant]
  cases hstops <;> simp

/-- An action after which the page goes on, and the chain that is pending then. -/
theorem asWritten_of_completed {action : Action} {left : Nat} {chain' : Option (Chain E)}
    {pause : List (Task.Step E)} (hpast : Pending past chain)
    (h : (carryOut settings.wait chain action).Ends steps (.value chain'))
    (hpause : (settle settings left : Task E RunError Unit).Ends pause (.value ())) :
    AsWritten past ⟨action, steps ++ pause⟩ ∧ ¬Unopened past ⟨action, steps ++ pause⟩ ∧
      Pending (past ++ [⟨action, steps ++ pause⟩]) chain' := by
  obtain ⟨hsilent, hnothing⟩ := idle_settle hpause
  have hacts := onChain_carryOut h hsilent hnothing
  obtain ⟨hwritten, hwant⟩ := hpast.asWritten hacts
  exact ⟨hwritten, fun hunopened => (nomatch hwant.mpr hunopened), hpast.snoc hacts⟩

/-- Every action of a page does what is written, whatever has been done before the page came to
the actions that are left.  One that needs a chain that is not open is the last one, and the page
ends with it. -/
theorem asWritten_of_ends (h : (runActions settings chain actions).Ends steps x)
    (hpast : Pending past chain) {done : List (Stint E)} {d : Stint E} {rest : List (Stint E)}
    (hsplit : stints actions steps = done ++ d :: rest) :
    AsWritten (past ++ done) d ∧
      (Unopened (past ++ done) d → rest = [] ∧ x = .failed .chainNotStarted) := by
  induction actions generalizing chain steps past done with
  | nil => simp [stints] at hsplit
  | cons action left ih =>
      rcases runActions_cons_stints h with ⟨-, -, hnone⟩ | ⟨body, y, -, hbody, hstops, hone⟩ |
        ⟨body, pause, more, chain', -, hbody, hpause, hmore, hmany⟩
      · rw [hnone] at hsplit
        simp at hsplit
      · obtain ⟨hwritten, hwant⟩ := asWritten_of_stopped hpast hbody hstops
        rw [hone] at hsplit
        obtain ⟨rfl, rfl, rfl⟩ : done = [] ∧ ⟨action, body⟩ = d ∧ rest = [] := by
          cases done <;> simp_all
        rw [List.append_nil]
        exact ⟨hwritten, fun hunopened => ⟨rfl, hwant.mpr hunopened⟩⟩
      · obtain ⟨hwritten, hopened, hnext⟩ := asWritten_of_completed hpast hbody hpause
        rw [hmany] at hsplit
        cases done with
        | nil =>
            obtain ⟨rfl, -⟩ := List.cons.inj hsplit
            rw [List.append_nil]
            exact ⟨hwritten, fun hunopened => (hopened hunopened).elim⟩
        | cons first done =>
            obtain ⟨rfl, hlater⟩ := List.cons.inj hsplit
            have hrest := ih hmore hnext hlater
            rwa [List.append_assoc] at hrest

/-- A page that ends for want of a chain ends with an action that needs one. -/
theorem exists_unopened_of_ends
    (h : (runActions settings chain actions).Ends steps (.failed .chainNotStarted))
    (hpast : Pending past chain) :
    ∃ done d, stints actions steps = done ++ [d] ∧ Unopened (past ++ done) d := by
  induction actions generalizing chain steps past with
  | nil => cases (Task.ends_ended_iff.mp h).2
  | cons action left ih =>
      rcases runActions_cons_stints h with ⟨-, hcancelled, -⟩ | ⟨body, y, -, hbody, hstops, hone⟩ |
        ⟨body, pause, more, chain', -, hbody, hpause, hmore, hmany⟩
      · cases hcancelled
      · obtain ⟨-, hwant⟩ := asWritten_of_stopped hpast hbody hstops
        refine ⟨[], _, hone, ?_⟩
        rw [List.append_nil]
        exact hwant.mp rfl
      · obtain ⟨-, -, hnext⟩ := asWritten_of_completed hpast hbody hpause
        obtain ⟨done, d, hlater, hunopened⟩ := ih hmore hnext
        refine ⟨_ :: done, d, by rw [hmany, hlater, List.cons_append], ?_⟩
        rwa [List.append_assoc] at hunopened

end PageRun

/-! ## Suites -/

namespace SuiteRun

variable {E : Type} {settings : PageSettings} {suite : Suite} {start : Nat}
  {records : List PageRecord} {pages : List Page} {steps : List (Task.Step E)}
  {y : Ending Empty SuiteRun}

theorem asks_failAt (page : Page) (rest : List Page) (reason : String) (fatal : Option RunError) :
    Task.Asks (·.gesture? = none)
      (failAt suite start records page rest reason fatal : Task E Empty SuiteRun) :=
  .ask rfl fun _ => .ask rfl fun _ => .ask rfl fun _ => .ask (r := .now) rfl fun _ => .ended _

/-- The pages of a suite make their gestures one after the other, each of them its own. -/
theorem gestures_of_ends (h : (runPages settings suite start records pages).Ends steps y) :
    ∃ runs : List (Page × List (Task.Step E)), runs.map Prod.fst <+: pages ∧
      (∀ r ∈ runs, ∃ x, (r.1.run settings).Ends r.2 x) ∧
      Task.gestures steps = runs.flatMap fun r => Task.gestures r.2 := by
  induction pages generalizing records steps with
  | nil =>
      refine ⟨[], List.prefix_rfl, nofun, Task.gestures_eq_nil ?_ h⟩
      exact .ask rfl fun _ => .ask (r := .now) rfl fun _ => .ended _
  | cons page rest ih =>
      have hannounce : Task.Asks (·.gesture? = none) (announce page : Task E Empty Unit) :=
        asks_announce (by rfl) (fun _ => by rfl) page
      rcases Task.ends_bind_cases h with
        ⟨first, tail, u, rfl, hfirst, htail⟩ | ⟨e, -, -⟩ | ⟨p, rfl, hfirst⟩
      · rw [Task.gestures_append, Task.gestures_eq_nil hannounce hfirst]
        rcases Task.ends_bind_cases htail with
          ⟨run, more, x, rfl, hrun, hmore⟩ | ⟨e, -, -⟩ | ⟨p, rfl, hrun⟩
        · obtain ⟨x', hx', -⟩ := Task.ends_ending_iff.mp hrun
          rw [Task.gestures_append]
          split at hmore
          · obtain ⟨runs, hruns, hends, hgestures⟩ := ih hmore
            refine ⟨(page, run) :: runs, List.cons_prefix_cons.mpr ⟨rfl, hruns⟩,
              List.forall_mem_cons.mpr ⟨⟨x', hx'⟩, hends⟩, ?_⟩
            rw [hgestures]
            rfl
          · rw [Task.gestures_eq_nil (asks_failAt _ _ _ _) hmore]
            exact ⟨[(page, run)], by simp, by simpa using ⟨x', hx'⟩, by simp⟩
        · exact e.elim
        · obtain ⟨x', hx', -⟩ := Task.ends_ending_iff.mp hrun
          exact ⟨[(page, tail)], by simp, by simpa using ⟨x', hx'⟩, by simp⟩
      · exact e.elim
      · exact ⟨[], List.nil_prefix, nofun, Task.gestures_eq_nil hannounce hfirst⟩

end SuiteRun

/-- On every path of a page, whoever answers, chains are performed as they are written.  All
gestures are made by actions; an action that performs a chain makes one gesture of the steps that
have been added since the chain was started, in their order, or none if there are none; and no other
action makes one.  An action that needs a chain when none is open is the last one, and the page ends
for want of a chain with it and with no other.  The pages of a suite do so each for itself: none
sends what another one has collected. -/
theorem chains_are_performed_as_written {E : Type} (settings : PageSettings) :
    (∀ (page : Page) (steps : List (Task.Step E)) (x : Ending RunError Unit),
      (page.run settings).Ends steps x →
        let all := PageRun.stints page.actions steps
        Task.gestures steps = all.flatMap (fun d => Task.gestures d.steps) ∧
          (∀ done d rest, all = done ++ d :: rest →
            AsWritten done d ∧ (Unopened done d → rest = [] ∧ x = .failed .chainNotStarted)) ∧
          (x = .failed .chainNotStarted → ∃ done d, all = done ++ [d] ∧ Unopened done d)) ∧
      ∀ (suite : Suite) (steps : List (Task.Step E)) (y : Ending Empty SuiteRun),
        (suite.run settings).Ends steps y →
          ∃ runs : List (Page × List (Task.Step E)), runs.map Prod.fst <+: suite.pages ∧
            (∀ r ∈ runs, ∃ x, (r.1.run settings).Ends r.2 x) ∧
            Task.gestures steps = runs.flatMap fun r => Task.gestures r.2 := by
  constructor
  · intro page steps x h all
    refine ⟨PageRun.gestures_of_ends h, fun done d rest hsplit => ?_, ?_⟩
    · exact PageRun.asWritten_of_ends h pending_nil hsplit
    · rintro rfl
      exact PageRun.exists_unopened_of_ends h pending_nil
  · intro suite steps y h
    obtain ⟨start, rest, rfl, hrest⟩ := Program.leads_ask_done_iff.mp h
    change Task.Ends (SuiteRun.runPages settings suite start [] suite.pages) rest y at hrest
    obtain ⟨runs, hruns, hends, hgestures⟩ := SuiteRun.gestures_of_ends hrest
    exact ⟨runs, hruns, hends, hgestures⟩

/-- A chain that is given up, one that is performed, and one that is left pending. -/
def weaving : Page :=
  ⟨"weaving", [⟨"action_new", [], 1⟩, ⟨"action_click", [], 2⟩, ⟨"action_new", [], 3⟩,
    ⟨"action_move_to_element", ["id", "ok"], 4⟩, ⟨"action_keys", ["tab"], 5⟩,
    ⟨"action_perform", [], 6⟩, ⟨"action_new", [], 7⟩, ⟨"action_click", [], 8⟩]⟩

/-- A page that would perform what another page has left. -/
def gleaning : Page := ⟨"gleaning", [⟨"log", ["now"], 1⟩, ⟨"action_perform", [], 2⟩]⟩

/-- One gesture is made, and the second page fails with its last action. -/
theorem chains_are_performed_as_written_gleaning :
    let settings : PageSettings := ⟨0, 0, ⟨500, 100, by decide⟩⟩
    let suite : Suite := ⟨"s", [weaving, gleaning]⟩
    let browser := Scripted.blank.addElement ⟨"id=ok", 0, "", [], [], 0, false, 0⟩
    let w : World := ⟨.start browser none 0, .empty, []⟩
    let left := (w.run (weaving.run settings)).2
    Task.gestures (w.trace (suite.run settings)) =
        [[.moveTo ⟨"id=ok", 0⟩, .keys (String.singleton '\ue004')]] ∧
      (∃ runs : List (Page × List (Task.Step Handle)), runs.map Prod.fst <+: suite.pages ∧
        Task.gestures (w.trace (suite.run settings)) = runs.flatMap fun r => Task.gestures r.2) ∧
      (left.run (gleaning.run settings)).1 = .failed .chainNotStarted ∧
      ∃ done d, PageRun.stints gleaning.actions (left.trace (gleaning.run settings)) = done ++ [d] ∧
        Unopened done d := by
  intro settings suite browser w left
  obtain ⟨hpages, hsuites⟩ := chains_are_performed_as_written (E := Handle) settings
  have hfails : (left.run (gleaning.run settings)).1 = .failed .chainNotStarted := by
    decide +kernel
  obtain ⟨-, -, hlast⟩ := hpages gleaning _ _ (left.ends_trace (gleaning.run settings))
  obtain ⟨runs, hruns, -, hgestures⟩ := hsuites suite _ _ (w.ends_trace (suite.run settings))
  exact ⟨by decide +kernel, ⟨runs, hruns, hgestures⟩, hfails, hlast hfails⟩

end BrowserSuite
