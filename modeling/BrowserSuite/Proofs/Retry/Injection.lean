import BrowserSuite.Browser.Scripted

/-!
# Rules that inject transient failures

A rule *injects* if all it does is to let a bounded number of calls fail with a
transient error, where the call is one of those that pages repeat until they
succeed.  The number of failures that a list of such rules can still cause is its
`budget`: finding a rule takes one from it, and a call that no rule is found for
leaves it as it is.
-/

namespace BrowserSuite.Scripted

/-- The kinds of calls that pages repeat while they fail with a transient error. -/
def polledOps : List String := ["find", "click", "select", "select_value", "switch"]

namespace Rule

/-- A rule that does nothing but let some polled calls fail with a transient error. -/
structure Injects (r : Rule) : Prop where
  op : r.op ∈ polledOps
  finite : r.times.isSome = true
  delay : r.delay = 0
  cancels : r.cancels = false
  panic : r.panic = none
  error : ∃ e : BrowserError, r.error = some e ∧ e.isTransient = true

/-- How many calls a rule can still disturb. -/
def left (r : Rule) : Nat := r.times.getD 0

end Rule

/-- How many calls some rules can still disturb. -/
def budget (rules : List Rule) : Nat := rules.foldr (fun r n => r.left + n) 0

@[simp] theorem budget_nil : budget [] = 0 := rfl

@[simp] theorem budget_cons (r : Rule) (rules : List Rule) :
    budget (r :: rules) = r.left + budget rules := rfl

variable {op key : String} {r : Rule} {rules : List Rule}

/-- A rule that applies is about calls of its own kind and has some of them left. -/
theorem Rule.of_concerns (h : r.concerns op key = true) : r.op = op ∧ r.times ≠ some 0 := by
  simp only [Rule.concerns, Bool.and_eq_true, beq_iff_eq, bne_iff_ne] at h
  exact ⟨h.1.1, h.2⟩

/-- A rule that has been used can disturb one call less. -/
theorem Rule.Injects.left_pred (h : r.Injects) (hconcerns : r.concerns op key = true) :
    Rule.left { r with times := r.times.map (· - 1) } + 1 = r.left := by
  obtain ⟨n, hn⟩ := Option.isSome_iff_exists.mp h.finite
  have hpos : n ≠ 0 := by
    rintro rfl
    exact (Rule.of_concerns hconcerns).2 hn
  simp only [Rule.left, hn, Option.map_some, Option.getD_some]
  omega

/-- What taking a rule for a kind of call does to the budget.  A rule that is found
injects a failure into that kind of call, and then one failure less is to come. -/
def Spends (op : String) (rules : List Rule) : Option Rule × List Rule → Prop
  | (none, rest) => budget rest = budget rules
  | (some r, rest) => r.Injects ∧ r.op = op ∧ budget rest + 1 = budget rules

theorem Spends.cons {found : Option Rule} {rest : List Rule} {r' : Rule}
    (h : Spends op rules (found, rest)) (hleft : r'.left = r.left) :
    Spends op (r :: rules) (found, r' :: rest) := by
  cases found with
  | none => simpa [Spends, hleft] using h
  | some found =>
      obtain ⟨hfound, hop, hbudget⟩ := h
      refine ⟨hfound, hop, ?_⟩
      rw [budget_cons, budget_cons, hleft, Nat.add_assoc, hbudget]

/-- Among rules that inject, taking one leaves such rules and spends the budget. -/
theorem takeRule_spends (op key : String) (h : ∀ r ∈ rules, r.Injects) :
    (∀ r ∈ (takeRule op key rules).2, r.Injects) ∧ Spends op rules (takeRule op key rules) := by
  -- rules that come before the one that is found keep their `left`
  induction rules with
  | nil => exact ⟨by simp [takeRule], rfl⟩
  | cons r rules ih =>
      obtain ⟨hr, hrules⟩ := List.forall_mem_cons.mp h
      obtain ⟨hkept, hspends⟩ := ih hrules
      unfold takeRule
      by_cases hconcerns : r.concerns op key = true
      · by_cases hskip : 0 < r.skip
        · -- the call is one of those that the rule lets through
          rw [if_pos hconcerns, if_pos hskip]
          exact ⟨List.forall_mem_cons.mpr ⟨⟨hr.op, hr.finite, hr.delay, hr.cancels, hr.panic,
            hr.error⟩, hkept⟩, hspends.cons rfl⟩
        · -- the rule disturbs the call
          rw [if_pos hconcerns, if_neg hskip]
          refine ⟨List.forall_mem_cons.mpr ⟨⟨hr.op, ?_, hr.delay, hr.cancels, hr.panic,
            hr.error⟩, hrules⟩, hr, (Rule.of_concerns hconcerns).1, ?_⟩
          · simpa using hr.finite
          · have hleft := hr.left_pred hconcerns
            rw [budget_cons, budget_cons, ← hleft]
            omega
      · rw [if_neg hconcerns]
        exact ⟨List.forall_mem_cons.mpr ⟨hr, hkept⟩, hspends.cons rfl⟩

end BrowserSuite.Scripted
