import BrowserSuite.Proofs.Page.Gestures

/-!
# Chains and the gestures that are made of them

A chain is operated on again and again, and a gesture may fail or panic.  Whatever becomes of a
gesture, its steps have left the chain by then: what has been sent and what is still pending are
together what has been added, in that order and each step once (`chain_sends_steps_once`).

The invariant is carried by a single operation (`sent_append_pending_apply`): it moves steps from
the end of what is pending to what has been sent, or it adds one.  A chain that is started anew
drops what is pending, so that some of the steps added before are never sent, but none is sent
twice (`Course.sublist`).
-/

namespace BrowserSuite.Chain

variable {E : Type} {c left : Chain E} {op : Operation E} {ops : List (Operation E)}
  {steps path : List (Task.Step E)} {x : Ending BrowserError Unit}

/-- The step that an operation adds. -/
def Operation.step? : Operation E → Option (Gesture E)
  | .add step => some step
  | .restart | .perform => none

/-- On the chain `c` the operation ends in this way and leaves the chain `left` if its requests
are answered as `steps` tells. -/
def Operation.Ends (op : Operation E) (c : Chain E) (steps : List (Task.Step E))
    (x : Ending BrowserError Unit) (left : Chain E) : Prop :=
  Program.Leads (op.apply c) steps (.done (x, left))

/-- Operations on one chain, with everything that is asked for them.  The next operation finds
the chain that is left, however the one before it has ended. -/
inductive Course : Chain E → List (Operation E) → List (Task.Step E) → Chain E → Prop
  | nil (c : Chain E) : Course c [] [] c
  | cons {c next left : Chain E} {op : Operation E} {ops : List (Operation E)}
      {steps path : List (Task.Step E)} {x : Ending BrowserError Unit}
      (h : op.Ends c steps x next) (hrest : Course next ops path left) :
      Course c (op :: ops) (steps ++ path) left

/-! ## One operation -/

/-- An operation that asks for nothing ends in one way. -/
theorem ends_iff_of_apply_eq {next : Chain E} (h : op.apply c = .done (.value (), next)) :
    op.Ends c steps x left ↔ steps = [] ∧ x = .value () ∧ left = next := by
  rw [Operation.Ends, h, Program.leads_done_iff, Program.done.injEq, Prod.mk.injEq]

theorem ends_add_iff {step : Gesture E} :
    (Operation.add step).Ends c steps x left ↔
      steps = [] ∧ x = .value () ∧ left = c.add step :=
  ends_iff_of_apply_eq rfl

theorem ends_restart_iff :
    Operation.restart.Ends c steps x left ↔ steps = [] ∧ x = .value () ∧ left = empty :=
  ends_iff_of_apply_eq rfl

theorem ends_perform_empty_iff :
    Operation.perform.Ends empty steps x left ↔ steps = [] ∧ x = .value () ∧ left = empty :=
  ends_iff_of_apply_eq rfl

theorem ends_perform_iff (h : c.pending ≠ []) :
    Operation.perform.Ends c steps x left ↔
      steps = [⟨.call (.performGestures c.pending), x⟩] ∧ left = empty := by
  rw [Operation.Ends, Operation.apply_perform, if_neg (by simpa using h)]
  refine Program.leads_bind_done_iff.trans ⟨?_, ?_⟩
  · rintro ⟨first, rest, y, rfl, hcall, hrest⟩
    obtain rfl := Task.ends_call_iff.mp hcall
    obtain ⟨rfl, hdone⟩ := Program.leads_done_iff.mp hrest
    cases hdone
    exact ⟨rfl, rfl⟩
  · rintro ⟨rfl, rfl⟩
    exact ⟨_, [], x, rfl, Task.ends_call_iff.mpr rfl, .nil _⟩

theorem eq_empty_of_pending (h : c.pending = []) : c = empty := by
  cases c
  cases h
  rfl

/-- Performing a chain sends what was pending and leaves nothing, however it ends. -/
theorem flatten_gestures_perform (h : Operation.perform.Ends c steps x left) :
    (Task.gestures steps).flatten = c.pending ∧ left = empty := by
  by_cases hpending : c.pending = []
  · obtain rfl := eq_empty_of_pending hpending
    obtain ⟨rfl, -, rfl⟩ := ends_perform_empty_iff.mp h
    exact ⟨rfl, rfl⟩
  · obtain ⟨rfl, rfl⟩ := (ends_perform_iff hpending).mp h
    exact ⟨List.append_nil _, rfl⟩

/-- One operation moves pending steps to those that are sent, or adds one. -/
theorem sent_append_pending_apply (h : op.Ends c steps x left) (hop : op ≠ .restart) :
    (Task.gestures steps).flatten ++ left.pending = c.pending ++ op.step?.toList := by
  cases op with
  | add step =>
      obtain ⟨rfl, -, rfl⟩ := ends_add_iff.mp h
      rfl
  | restart => exact absurd rfl hop
  | perform =>
      obtain ⟨hsent, rfl⟩ := flatten_gestures_perform h
      rw [hsent]
      rfl

/-- Nothing is sent twice, even if a chain is dropped. -/
theorem sublist_apply (h : op.Ends c steps x left) :
    ((Task.gestures steps).flatten ++ left.pending).Sublist (c.pending ++ op.step?.toList) := by
  by_cases hop : op = .restart
  · subst hop
    obtain ⟨rfl, -, rfl⟩ := ends_restart_iff.mp h
    exact List.nil_sublist _
  · rw [sent_append_pending_apply h hop]

/-! ## All operations -/

/-- The steps that operations add, in their order. -/
def added (ops : List (Operation E)) : List (Gesture E) := ops.filterMap Operation.step?

theorem added_cons (op : Operation E) (ops : List (Operation E)) :
    added (op :: ops) = op.step?.toList ++ added ops := by
  cases op <;> rfl

/-- The calls that make gestures one after the other, each with what comes of it. -/
def calls (outcome : ℕ → Ending BrowserError Unit) (gestures : List (List (Gesture E))) :
    List (Task.Step E) :=
  gestures.mapIdx fun i steps => ⟨.call (.performGestures steps), outcome i⟩

theorem calls_cons (outcome : ℕ → Ending BrowserError Unit) (gesture : List (Gesture E))
    (gestures : List (List (Gesture E))) :
    calls outcome (gesture :: gestures) =
      ⟨.call (.performGestures gesture), outcome 0⟩ ::
        calls (fun i => outcome (i + 1)) gestures :=
  List.mapIdx_cons

namespace Course

theorem sent_append_pending (h : Course c ops path left) (hops : .restart ∉ ops) :
    (Task.gestures path).flatten ++ left.pending = c.pending ++ added ops := by
  induction h with
  | nil c => exact (List.append_nil _).symm
  | @cons c next left op ops steps path x hop _ ih =>
      obtain ⟨hne, hrest⟩ : op ≠ .restart ∧ .restart ∉ ops := by simpa [eq_comm] using hops
      calc (Task.gestures (steps ++ path)).flatten ++ left.pending
        _ = (Task.gestures steps).flatten ++ ((Task.gestures path).flatten ++ left.pending) := by
          rw [Task.gestures_append, List.flatten_append, List.append_assoc]
        _ = (Task.gestures steps).flatten ++ next.pending ++ added ops := by
          rw [ih hrest, List.append_assoc]
        _ = c.pending ++ added (op :: ops) := by
          rw [sent_append_pending_apply hop hne, added_cons, List.append_assoc]

theorem sublist (h : Course c ops path left) :
    ((Task.gestures path).flatten ++ left.pending).Sublist (c.pending ++ added ops) := by
  induction h with
  | nil c => simp [Task.gestures, added]
  | cons hop _ ih =>
      rw [Task.gestures_append, List.flatten_append, List.append_assoc]
      refine (ih.append_left _).trans ?_
      rw [added_cons, ← List.append_assoc, ← List.append_assoc]
      exact (sublist_apply hop).append_right _

/-- Whatever is to come of the gestures, the operations can be carried out. -/
theorem exists_of_outcomes (c : Chain E) (ops : List (Operation E))
    (outcome : ℕ → Ending BrowserError Unit) :
    ∃ gestures left, Course c ops (calls outcome gestures) left := by
  induction ops generalizing c outcome with
  | nil => exact ⟨[], c, .nil c⟩
  | cons op ops ih =>
      have hsilent {next : Chain E} (h : op.Ends c [] (.value ()) next) :
          ∃ gestures left, Course c (op :: ops) (calls outcome gestures) left := by
        obtain ⟨gestures, left, hcourse⟩ := ih next outcome
        exact ⟨gestures, left, .cons h hcourse⟩
      cases op with
      | add step => exact hsilent (ends_add_iff.mpr ⟨rfl, rfl, rfl⟩)
      | restart => exact hsilent (ends_restart_iff.mpr ⟨rfl, rfl, rfl⟩)
      | perform =>
          by_cases hpending : c.pending = []
          · obtain rfl := eq_empty_of_pending hpending
            exact hsilent (ends_perform_empty_iff.mpr ⟨rfl, rfl, rfl⟩)
          · obtain ⟨gestures, left, hcourse⟩ := ih empty fun i => outcome (i + 1)
            have hsent : Operation.perform.Ends c
                [⟨.call (.performGestures c.pending), outcome 0⟩] (outcome 0) empty :=
              (ends_perform_iff hpending).mpr ⟨rfl, rfl⟩
            refine ⟨c.pending :: gestures, left, ?_⟩
            rw [calls_cons]
            exact .cons hsent hcourse

end Course

/-- Performing a chain with steps makes one gesture of all of them, and that gesture decides how
it ends; performing one without steps asks for nothing and succeeds.  Either way the chain is empty
afterwards.

Any operations can be carried out on a chain, whatever is to come of the gestures.  All the while,
what has been sent, one gesture after the other, and what is pending are together the steps that
have been added, in their order; and if the chain has been started anew on the way, they are some
of these, each at most once. -/
theorem chain_sends_steps_once {E : Type} :
    (∀ (c : Chain E) (steps : List (Task.Step E)) (x : Ending BrowserError Unit) (left : Chain E),
      c.pending ≠ [] → (Operation.perform.Ends c steps x left ↔
        steps = [⟨.call (.performGestures c.pending), x⟩] ∧ left = empty)) ∧
    (∀ (steps : List (Task.Step E)) (x : Ending BrowserError Unit) (left : Chain E),
      Operation.perform.Ends empty steps x left ↔ steps = [] ∧ x = .value () ∧ left = empty) ∧
    (∀ (c : Chain E) (steps : List (Task.Step E)) (x : Ending BrowserError Unit) (left : Chain E),
      Operation.perform.Ends c steps x left → left = empty) ∧
    (∀ (ops : List (Operation E)) (outcome : ℕ → Ending BrowserError Unit),
      ∃ gestures left, Course empty ops (calls outcome gestures) left) ∧
    ∀ (ops : List (Operation E)) (path : List (Task.Step E)) (left : Chain E),
      Course empty ops path left →
        (.restart ∉ ops → (Task.gestures path).flatten ++ left.pending = added ops) ∧
          ((Task.gestures path).flatten ++ left.pending).Sublist (added ops) := by
  refine ⟨fun c steps x left h => ends_perform_iff h, fun steps x left => ends_perform_empty_iff,
    fun c steps x left h => (flatten_gestures_perform h).2,
    fun ops outcome => Course.exists_of_outcomes empty ops outcome,
    fun ops path left h => ⟨fun hops => ?_, ?_⟩⟩
  · exact h.sent_append_pending hops
  · exact h.sublist

/-- A gesture that fails, a chain that is empty then, a gesture that panics, and a step that is
left. -/
theorem chain_sends_steps_once_stumbling :
    let stale : Ending BrowserError Unit := .failed (.staleElement "id=menu")
    let path : List (Task.Step Handle) :=
      [⟨.call (.performGestures [.moveTo ⟨"id=menu", 0⟩, .click]), stale⟩,
        ⟨.call (.performGestures [.keys "x"]), .panicked .other⟩]
    let ops : List (Operation Handle) :=
      [.add (.moveTo ⟨"id=menu", 0⟩), .add .click, .perform, .perform, .add (.keys "x"), .perform,
        .add .click]
    Course empty ops path ⟨[.click]⟩ ∧
      (Task.gestures path).flatten ++ [.click] =
        [.moveTo ⟨"id=menu", 0⟩, .click, .keys "x", .click] := by
  intro stale path ops
  obtain ⟨hperform, hempty, -, -, hcourse⟩ := chain_sends_steps_once (E := Handle)
  have hadd {c : Chain Handle} {step : Gesture Handle} :
      (Operation.add step).Ends c [] (.value ()) (c.add step) :=
    ends_add_iff.mpr ⟨rfl, rfl, rfl⟩
  have h : Course empty ops path ⟨[.click]⟩ :=
    .cons hadd <| .cons hadd <| .cons ((hperform _ _ stale _ (by decide)).mpr ⟨rfl, rfl⟩) <|
      .cons ((hempty _ _ _).mpr ⟨rfl, rfl, rfl⟩) <| .cons hadd <|
        .cons ((hperform _ _ (.panicked .other) _ (by decide)).mpr ⟨rfl, rfl⟩) <|
          .cons hadd (.nil _)
  exact ⟨h, (hcourse ops path _ h).1 (by simp [ops])⟩

end BrowserSuite.Chain
