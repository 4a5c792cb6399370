import BrowserSuite.Ending
import Mathlib.Data.List.Forall2

/-!
# Values of computations that may fail

Where a composed computation has a value, its parts have values too.  With these lemmas a
check that has passed is taken apart into the checks that it is made of.  A check that has
not passed reports its first fault, and over a list that is the fault of the first element
that has one (`fault?_mapM`).
-/

namespace BrowserSuite

variable {ε α β : Type}

theorem exists_of_bind_eq_ok {x : Except ε α} {f : α → Except ε β} {b : β}
    (h : x >>= f = .ok b) : ∃ a, x = .ok a ∧ f a = .ok b := by
  cases x with
  | error e => cases h
  | ok a => exact ⟨a, rfl, h⟩

theorem exists_of_map_eq_ok {x : Except ε α} {g : α → β} {b : β} (h : g <$> x = .ok b) :
    ∃ a, x = .ok a ∧ g a = b := by
  cases x with
  | error e => cases h
  | ok a =>
      cases h
      exact ⟨a, rfl, rfl⟩

theorem eq_ok_of_mapError_eq_ok {ε' : Type} {x : Except ε α} {g : ε → ε'} {a : α}
    (h : x.mapError g = .ok a) : x = .ok a := by
  cases x with
  | error e => cases h
  | ok a =>
      cases h
      rfl

theorem eq_ok_of_toOption_eq_some {x : Except ε α} {a : α} (h : x.toOption = some a) :
    x = .ok a := by
  cases x with
  | error e => cases h
  | ok a =>
      cases h
      rfl

/-- What every value of a function satisfies, a list of its values satisfies. -/
theorem forall_mem_of_mapM_eq_ok {P : β → Prop} {f : α → Except ε β}
    (hf : ∀ a b, f a = .ok b → P b) {as : List α} {bs : List β} (h : as.mapM f = .ok bs) :
    ∀ b ∈ bs, P b := by
  induction as generalizing bs with
  | nil =>
      cases h
      exact List.forall_mem_nil _
  | cons a rest ih =>
      rw [List.mapM_cons] at h
      obtain ⟨b, hb, h⟩ := exists_of_bind_eq_ok h
      obtain ⟨others, hothers, h⟩ := exists_of_bind_eq_ok h
      cases h
      exact List.forall_mem_cons.mpr ⟨hf a b hb, ih hothers⟩

/-- A function that has a value everywhere on a list has them in the list's order. -/
theorem mapM_eq_ok_iff {f : α → Except ε β} {as : List α} {bs : List β} :
    as.mapM f = .ok bs ↔ List.Forall₂ (fun a b => f a = .ok b) as bs := by
  induction as generalizing bs with
  | nil =>
      rw [List.forall₂_nil_left_iff]
      exact ⟨fun h => by cases h; rfl, fun h => by rw [h]; rfl⟩
  | cons a rest ih =>
      rw [List.mapM_cons, List.forall₂_cons_left_iff]
      constructor
      · intro h
        obtain ⟨b, hb, h⟩ := exists_of_bind_eq_ok h
        obtain ⟨others, hothers, h⟩ := exists_of_bind_eq_ok h
        cases h
        exact ⟨b, others, hb, ih.mp hothers, rfl⟩
      · rintro ⟨b, others, hb, hothers, rfl⟩
        rw [hb, ih.mpr hothers]
        rfl

/-! ## The first fault -/

/-- The error of a computation, if it has no value. -/
def fault? : Except ε α → Option ε
  | .ok _ => none
  | .error e => some e

theorem fault?_eq_none_iff {x : Except ε α} : fault? x = none ↔ ∃ a, x = .ok a := by
  cases x <;> simp [fault?]

theorem fault?_eq_some_iff {x : Except ε α} {e : ε} : fault? x = some e ↔ x = .error e := by
  cases x <;> simp [fault?]

theorem fault?_mapError {ε' : Type} (g : ε → ε') (x : Except ε α) :
    fault? (x.mapError g) = (fault? x).map g := by
  cases x <;> rfl

/-- What is made of a value is no fault. -/
theorem fault?_bind_pure (x : Except ε α) (g : α → β) :
    fault? (x >>= fun a => pure (g a)) = fault? x := by
  cases x <;> rfl

/-- Over a list, the first fault counts, and what stands behind it is not looked at. -/
theorem fault?_mapM (f : α → Except ε β) (l : List α) :
    fault? (l.mapM f) = l.findSome? fun a => fault? (f a) := by
  induction l with
  | nil => rfl
  | cons a rest ih =>
      rw [List.mapM_cons, List.findSome?_cons, ← ih]
      cases f a with
      | error e => rfl
      | ok b =>
          exact fault?_bind_pure (rest.mapM f) (b :: ·)

/-- Where each element has its list of faults, that is the head of all these lists. -/
theorem fault?_mapM_eq_head? {f : α → Except ε β} {faults : α → List ε}
    (hf : ∀ a, fault? (f a) = (faults a).head?) (l : List α) :
    fault? (l.mapM f) = (l.flatMap faults).head? := by
  rw [fault?_mapM, List.head?_flatMap]
  exact congrArg (List.findSome? · l) (funext hf)

end BrowserSuite
