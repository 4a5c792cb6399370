import BrowserSuite.Proofs.Program.Path

/-!
# Paths to any ending

`Path` follows tasks that end with a value.  Here are the same laws for tasks that may
also fail or panic: a composed task ends where its first part does not end with a value
(`ends_bind_cases`), and handling errors only changes the name of an ending
(`ends_attempt_iff`, `ends_mapError_iff`).

A program has one way to go on for each reply, so a path determines what is left of it
(`Leads.cut`), and no path of a task to its end is part of a longer one
(`Ends.eq_of_append`).
-/

namespace BrowserSuite

namespace Program

variable {R : Type} {Reply : R → Type} {α β : Type}

/-- What a program is composed with does not change its paths. -/
theorem Leads.bind {p q : Program Reply α} {steps : List (Step Reply)} (h : Leads p steps q)
    (f : α → Program Reply β) : Leads (p.bind f) steps (q.bind f) := by
  induction h with
  | nil p => exact .nil _
  | cons reply _ ih => exact .cons reply ih

/-- Where every request can be answered, every program can be brought to a result. -/
theorem exists_leads_done (hreply : ∀ r, Nonempty (Reply r)) (p : Program Reply α) :
    ∃ steps a, Leads p steps (done a) := by
  induction p with
  | done a => exact ⟨[], a, .nil _⟩
  | ask r next ih =>
      obtain ⟨reply⟩ := hreply r
      obtain ⟨steps, a, h⟩ := ih reply
      exact ⟨_, a, .cons reply h⟩

/-- Where a part of a path has led to, the rest of the path begins. -/
theorem Leads.cut {p q s : Program Reply α} {first rest : List (Step Reply)}
    (hfirst : Leads p first q) (h : Leads p (first ++ rest) s) : Leads q rest s := by
  induction hfirst with
  | nil p => exact h
  | cons reply _ ih =>
      cases h with
      | cons _ h => exact ih h

end Program

namespace Ending

variable {ε ε' α : Type}

/-- An ending with its error put in other terms. -/
def mapError (g : ε → ε') : Ending ε α → Ending ε' α
  | value a => value a
  | failed e => failed (g e)
  | panicked p => panicked p

/-- An ending whose failure is a value. -/
def attempted : Ending ε α → Ending ε' (Except ε α)
  | value a => value (.ok a)
  | failed e => value (.error e)
  | panicked p => panicked p

/-- An ending that is a value, unless it is a fatal panic. -/
def caught : Ending ε α → Ending Empty (Ending ε α)
  | panicked .fatal => panicked .fatal
  | e => value e

theorem caught_eq_value {x : Ending ε α} (h : x ≠ panicked .fatal) : x.caught = value x := by
  cases x with
  | panicked p =>
      cases p with
      | fatal => exact absurd rfl h
      | _ => rfl
  | _ => rfl

end Ending

namespace Task

variable {E ε ε' α β : Type} {t : Task E ε α} {steps : List (Step E)}

/-- No path to the end of a task is part of a longer one. -/
theorem Ends.eq_of_append {more : List (Step E)} {e e' : Ending ε α} (h : t.Ends steps e)
    (hlonger : t.Ends (steps ++ more) e') : more = [] ∧ e' = e := by
  obtain ⟨hmore, hdone⟩ := Program.leads_done_iff.mp (h.cut hlonger)
  cases hdone
  exact ⟨hmore, rfl⟩

/-- A call is a path of one step, with the ending of the call. -/
theorem ends_call_iff {c : Call E} {x : Ending BrowserError c.Reply} :
    (Task.call c).Ends steps x ↔ steps = [⟨.call c, x⟩] := by
  constructor
  · intro h
    obtain ⟨reply, rest, rfl, hrest⟩ := Program.leads_ask_done_iff.mp h
    obtain ⟨rfl, rfl⟩ := ends_ended_iff.mp hrest
    rfl
  · rintro rfl
    exact Program.leads_ask_done_iff.mpr ⟨x, [], rfl, .nil _⟩

/-- Where its first part ends with a value, a composed task goes on with its second one. -/
theorem Ends.leads_bind {a : α} (h : t.Ends steps (.value a)) (f : α → Task E ε β) :
    Program.Leads (Task.bind t f) steps (f a) :=
  Program.Leads.bind h _

/-- A composed task ends with its second part, or with its first one if that does not
end with a value. -/
theorem ends_bind_cases {f : α → Task E ε β} {e : Ending ε β} (h : (t >>= f).Ends steps e) :
    (∃ first rest a, steps = first ++ rest ∧ t.Ends first (.value a) ∧ (f a).Ends rest e) ∨
      (∃ err, e = .failed err ∧ t.Ends steps (.failed err)) ∨
        ∃ p, e = .panicked p ∧ t.Ends steps (.panicked p) := by
  obtain ⟨first, rest, x, rfl, hfirst, hrest⟩ := Program.leads_bind_done_iff.mp h
  cases x with
  | value a => exact .inl ⟨first, rest, a, rfl, hfirst, hrest⟩
  | failed err =>
      obtain ⟨rfl, rfl⟩ := ends_ended_iff.mp hrest
      rw [List.append_nil]
      exact .inr (.inl ⟨err, rfl, hfirst⟩)
  | panicked p =>
      obtain ⟨rfl, rfl⟩ := ends_ended_iff.mp hrest
      rw [List.append_nil]
      exact .inr (.inr ⟨p, rfl, hfirst⟩)

/-- A task after which nothing is asked any more has the paths of the task. -/
theorem ends_finally_iff {k : Ending ε α → Task E ε' β} {g : Ending ε α → Ending ε' β}
    (hk : ∀ x, k x = ended (g x)) {e : Ending ε' β} :
    Ends (Program.bind t k) steps e ↔ ∃ x, t.Ends steps x ∧ e = g x := by
  refine Program.leads_bind_done_iff.trans ⟨?_, ?_⟩
  · rintro ⟨first, rest, x, rfl, hfirst, hrest⟩
    rw [hk x] at hrest
    obtain ⟨rfl, rfl⟩ := ends_ended_iff.mp hrest
    rw [List.append_nil]
    exact ⟨x, hfirst, rfl⟩
  · rintro ⟨x, hx, rfl⟩
    refine ⟨steps, [], x, (List.append_nil steps).symm, hx, ?_⟩
    rw [hk x]
    exact .nil _

theorem ends_attempt_iff {e : Ending ε' (Except ε α)} :
    (t.attempt : Task E ε' (Except ε α)).Ends steps e ↔ ∃ x, t.Ends steps x ∧ e = x.attempted :=
  ends_finally_iff fun x => by cases x <;> rfl

theorem ends_mapError_iff {g : ε → ε'} {e : Ending ε' α} :
    (t.mapError g).Ends steps e ↔ ∃ x, t.Ends steps x ∧ e = x.mapError g :=
  ends_finally_iff fun x => by cases x <;> rfl

theorem ends_ending_iff {e : Ending Empty (Ending ε α)} :
    t.ending.Ends steps e ↔ ∃ x, t.Ends steps x ∧ e = x.caught :=
  ends_finally_iff fun x => by
    cases x with
    | panicked p => cases p <;> rfl
    | _ => rfl

/-- A task that looks at the ending of another one goes on from there, unless a fatal panic
cuts it short. -/
theorem ends_ending_bind_value_iff {f : Ending ε α → Task E Empty β} {b : β} :
    (t.ending >>= f).Ends steps (.value b) ↔
      ∃ first rest x, steps = first ++ rest ∧ t.Ends first x ∧ x ≠ .panicked .fatal ∧
        (f x).Ends rest (.value b) := by
  rw [ends_bind_value_iff]
  constructor
  · rintro ⟨first, rest, x, rfl, hfirst, hrest⟩
    obtain ⟨y, hy, hx⟩ := ends_ending_iff.mp hfirst
    have hcaught : y ≠ .panicked .fatal := by
      rintro rfl
      cases hx
    rw [Ending.caught_eq_value hcaught] at hx
    cases hx
    exact ⟨first, rest, x, rfl, hy, hcaught, hrest⟩
  · rintro ⟨first, rest, x, rfl, hfirst, hcaught, hrest⟩
    exact ⟨first, rest, x, rfl,
      ends_ending_iff.mpr ⟨x, hfirst, (Ending.caught_eq_value hcaught).symm⟩, hrest⟩

/-- A task that handles the failure of another one goes on from where that one ended,
unless that was a panic. -/
theorem ends_attempt_bind_cases {f : Except ε α → Task E ε' β} {e : Ending ε' β}
    (h : (t.attempt >>= f).Ends steps e) :
    (∃ first rest x r, steps = first ++ rest ∧ t.Ends first x ∧
        (x.attempted : Ending ε' (Except ε α)) = .value r ∧ (f r).Ends rest e) ∨
      ∃ p, e = .panicked p ∧ t.Ends steps (.panicked p) := by
  rcases ends_bind_cases h with ⟨first, rest, r, rfl, hfirst, hrest⟩ | ⟨err, _, hfailed⟩ |
    ⟨p, rfl, hpanicked⟩
  · obtain ⟨x, hx, hr⟩ := ends_attempt_iff.mp hfirst
    exact .inl ⟨first, rest, x, r, rfl, hx, hr.symm, hrest⟩
  · obtain ⟨x, -, hx⟩ := ends_attempt_iff.mp hfailed
    cases x <;> cases hx
  · obtain ⟨x, hends, hx⟩ := ends_attempt_iff.mp hpanicked
    cases x <;> cases hx
    exact .inr ⟨p, rfl, hends⟩

end Task

end BrowserSuite
