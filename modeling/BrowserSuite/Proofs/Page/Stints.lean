import BrowserSuite.Proofs.Page.Aloof
import BrowserSuite.Proofs.SuiteRun.Course
import BrowserSuite.Proofs.Wait.Course

/-!
# The stints of a page

Before each action a page looks whether the run has been cancelled, and nothing else looks.  So a
path of a page falls into parts, one for each action that is started (`Task.parts`), and what an
action has done can be read off its part, whoever answered.  An action with its part is a stint.

A page is run stint by stint: the first one is that of its first action, which is carried out on the
pending chain, and the others are those of the rest of the page (`runActions_cons_stints`).
-/

namespace BrowserSuite

namespace Task

variable {E : Type} {steps body more : List (Step E)}

/-! ## The parts of a path -/

/-- A look at the cancellation. -/
def Step.looks (s : Step E) : Bool :=
  match s.request with
  | .isCancelled => true
  | _ => false

/-- What is asked for each action that is started on a path, up to the next look. -/
def parts : List (Step E) → List (List (Step E))
  | [] => []
  | s :: rest =>
    if s.starts then (rest.takeWhile fun s => !s.looks) :: parts rest else parts rest

theorem Step.looks_eq_false_iff {s : Step E} : s.looks = false ↔ s.request ≠ .isCancelled := by
  unfold looks
  split <;> simp_all

theorem parts_append (hbody : ∀ s ∈ body, s.looks = false) : parts (body ++ more) = parts more := by
  induction body with
  | nil => rfl
  | cons s rest ih =>
      obtain ⟨hs, hrest⟩ := List.forall_mem_cons.mp hbody
      have hstarts : s.starts = false := by
        unfold Step.starts
        split
        · cases hs
        · rfl
      rw [List.cons_append, parts, hstarts]
      exact ih hrest

/-- The part of an action ends where the next look follows. -/
theorem parts_cons (hbody : ∀ s ∈ body, s.looks = false)
    (hmore : ∀ s ∈ more.head?, s.looks = true) :
    parts (⟨.isCancelled, false⟩ :: (body ++ more)) = body :: parts more := by
  have hpart : (body ++ more).takeWhile (fun s => !s.looks) = body := by
    rw [List.takeWhile_append_of_pos fun s hs => by simp [hbody s hs]]
    cases more with
    | nil => exact List.append_nil body
    | cons s rest => simp [hmore s rfl]
  change (body ++ more).takeWhile _ :: parts (body ++ more) = _
  rw [hpart, parts_append hbody]

end Task

/-- An action that was started on a path, with what was asked for it. -/
structure Stint (E : Type) where
  action : Action
  steps : List (Task.Step E)

namespace PageRun

variable {E : Type} {settings : PageSettings} {wait : WaitPolicy} {chain : Option (Chain E)}
  {action : Action} {actions left : List Action} {steps : List (Task.Step E)}
  {x : Ending RunError Unit}

/-- The actions that were started on a path of a page. -/
def stints (actions : List Action) (steps : List (Task.Step E)) : List (Stint E) :=
  List.zipWith Stint.mk actions (Task.parts steps)

/-- What is left of a page begins with a look, if anything is left. -/
theorem looks_head (h : (runActions settings chain actions).Ends steps x) :
    ∀ s ∈ steps.head?, s.looks = true := by
  cases actions with
  | nil =>
      obtain ⟨rfl, -⟩ := Task.ends_ended_iff.mp h
      nofun
  | cons action left =>
      obtain ⟨cancelled, rest, rfl, -⟩ := Program.leads_ask_done_iff.mp h
      rintro s ⟨⟩
      rfl

theorem looks_carryOut {y : Ending RunError (Option (Chain E))}
    (h : (carryOut wait chain action).Ends steps y) : ∀ s ∈ steps, s.looks = false :=
  fun s hs => Task.Step.looks_eq_false_iff.mpr ((part_carryOut wait chain action).asks _ _ h s hs)

theorem looks_settle {n : Nat} {y : Ending RunError Unit}
    (h : (settle settings n : Task E RunError Unit).Ends steps y) : ∀ s ∈ steps, s.looks = false :=
  fun s hs => Task.Step.looks_eq_false_iff.mpr ((part_settle settings n).asks _ _ h s hs)

/-- An action that is the last one to be started has all the rest of the path. -/
theorem stints_stopped (left : List Action) {y : Ending RunError (Option (Chain E))}
    (h : (carryOut wait chain action).Ends steps y) :
    stints (action :: left) (⟨.isCancelled, false⟩ :: steps) = [⟨action, steps⟩] := by
  have hparts : Task.parts (⟨.isCancelled, false⟩ :: (steps ++ [])) = steps :: Task.parts [] :=
    Task.parts_cons (looks_carryOut h) nofun
  rw [List.append_nil] at hparts
  rw [stints, hparts]
  cases left <;> rfl

/-- The run was cancelled before an action, the action stopped the page, or the page goes on after
it and the delays that follow it. -/
theorem runActions_cons_stints (h : (runActions settings chain (action :: left)).Ends steps x) :
    (steps = [⟨.isCancelled, true⟩] ∧ x = .failed .cancelled ∧ stints (action :: left) steps = []) ∨
      (∃ body y, steps = ⟨.isCancelled, false⟩ :: body ∧
        (carryOut settings.wait chain action).Ends body y ∧ y.Stops x ∧
        stints (action :: left) steps = [⟨action, body⟩]) ∨
      ∃ body pause more chain', steps = ⟨.isCancelled, false⟩ :: (body ++ pause ++ more) ∧
        (carryOut settings.wait chain action).Ends body (.value chain') ∧
        (settle settings left.length : Task E RunError Unit).Ends pause (.value ()) ∧
        (runActions settings chain' left).Ends more x ∧
        stints (action :: left) steps = ⟨action, body ++ pause⟩ :: stints left more := by
  rcases Task.ends_bind_cases h with
    ⟨first, tail, chain', rfl, haction, htail⟩ | ⟨e, rfl, haction⟩ | ⟨p, rfl, haction⟩
  · rcases runAction_cases haction with ⟨-, hvalue⟩ | ⟨body, rfl, hbody⟩
    · cases hvalue
    · rcases Task.ends_bind_cases htail with ⟨pause, more, u, rfl, hpause, hmore⟩ | ⟨e, -, hfail⟩ |
        ⟨p, -, hpanic⟩
      · refine .inr (.inr ⟨body, pause, more, chain', by simp, hbody, hpause, hmore, ?_⟩)
        have hpart : ∀ s ∈ body ++ pause, s.looks = false :=
          List.forall_mem_append.mpr ⟨looks_carryOut hbody, looks_settle hpause⟩
        have hparts := Task.parts_cons hpart (looks_head hmore)
        rw [List.append_assoc] at hparts
        change List.zipWith _ _
          (Task.parts (⟨.isCancelled, false⟩ :: (body ++ (pause ++ more)))) = _
        rw [hparts]
        rfl
      · cases (settle_ends hfail).1
      · cases (settle_ends hpanic).1
  · rcases runAction_cases haction with ⟨rfl, he⟩ | ⟨body, rfl, hbody⟩
    · cases he
      exact .inl ⟨rfl, rfl, rfl⟩
    · exact .inr (.inl ⟨body, _, rfl, hbody, .failed e, stints_stopped left hbody⟩)
  · rcases runAction_cases haction with ⟨-, hp⟩ | ⟨body, rfl, hbody⟩
    · cases hp
    · exact .inr (.inl ⟨body, _, rfl, hbody, .panicked p, stints_stopped left hbody⟩)

end PageRun

end BrowserSuite
