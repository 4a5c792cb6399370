import BrowserSuite.Engine.Task

/-!
# Paths of a program

A path answers the requests of a program one after the other, in any way the
types of the replies allow.  `Leads p steps q` says that the path `steps` leads
from `p` to what is then left of it.  Nothing is said about who answers, so what
holds along every path of a program holds in every world and under every
interleaving with other programs.

`leads_bind_done_iff` cuts a path through `bind` in two; with it a fact about the
paths of a composed program follows from facts about the paths of its parts.
-/

namespace BrowserSuite

namespace Program

variable {R : Type} {Reply : R → Type} {α β : Type}

/-- A request together with its reply. -/
structure Step (Reply : R → Type) where
  request : R
  reply : Reply request

/-- Answering requests as `steps` tells leads from one program to what is left
of it. -/
inductive Leads : Program Reply α → List (Step Reply) → Program Reply α → Prop
  | nil (p : Program Reply α) : Leads p [] p
  | cons {r : R} {next : Reply r → Program Reply α} (reply : Reply r) {steps : List (Step Reply)}
      {q : Program Reply α} (h : Leads (next reply) steps q) :
      Leads (ask r next) (⟨r, reply⟩ :: steps) q

theorem Leads.trans {p q s : Program Reply α} {first rest : List (Step Reply)}
    (h : Leads p first q) (hrest : Leads q rest s) : Leads p (first ++ rest) s := by
  induction h with
  | nil p => exact hrest
  | cons reply h ih => exact .cons reply (ih hrest)

/-- A path goes on with the next request. -/
theorem Leads.snoc {p : Program Reply α} {steps : List (Step Reply)} {r : R}
    {next : Reply r → Program Reply α} (h : Leads p steps (ask r next)) (reply : Reply r) :
    Leads p (steps ++ [⟨r, reply⟩]) (next reply) :=
  h.trans (.cons reply (.nil _))

@[simp] theorem leads_done_iff {a : α} {steps : List (Step Reply)} {q : Program Reply α} :
    Leads (done a) steps q ↔ steps = [] ∧ q = done a := by
  constructor
  · intro h
    cases h
    exact ⟨rfl, rfl⟩
  · rintro ⟨rfl, rfl⟩
    exact .nil _

/-- A path through a request begins with it. -/
theorem leads_ask_done_iff {r : R} {next : Reply r → Program Reply α} {steps : List (Step Reply)}
    {b : α} :
    Leads (ask r next) steps (done b) ↔
      ∃ reply rest, steps = ⟨r, reply⟩ :: rest ∧ Leads (next reply) rest (done b) := by
  constructor
  · intro h
    cases h with
    | cons reply h => exact ⟨reply, _, rfl, h⟩
  · rintro ⟨reply, rest, rfl, h⟩
    exact .cons reply h

/-- A path through `bind` first finishes the one part and then the other. -/
theorem leads_bind_done_iff {p : Program Reply α} {f : α → Program Reply β}
    {steps : List (Step Reply)} {b : β} :
    Leads (p.bind f) steps (done b) ↔
      ∃ first rest a, steps = first ++ rest ∧ Leads p first (done a) ∧
        Leads (f a) rest (done b) := by
  constructor
  · intro h
    -- along the tree of `p`: each reply picks a branch, and where `p` is done `f` begins
    induction p generalizing steps with
    | done a => exact ⟨[], steps, a, rfl, .nil _, h⟩
    | ask r next ih =>
        obtain ⟨reply, rest, rfl, hrest⟩ := leads_ask_done_iff.mp h
        obtain ⟨first, last, a, rfl, hfirst, hlast⟩ := ih reply hrest
        exact ⟨_ :: first, last, a, rfl, .cons reply hfirst, hlast⟩
  · rintro ⟨first, rest, a, rfl, hfirst, hrest⟩
    induction p generalizing first with
    | done c =>
        obtain ⟨rfl, ha⟩ := leads_done_iff.mp hfirst
        cases ha
        exact hrest
    | ask r next ih =>
        obtain ⟨reply, more, rfl, hmore⟩ := leads_ask_done_iff.mp hfirst
        exact .cons reply (ih reply more hmore)

end Program

namespace Task

variable {E ε α β : Type}

/-- A step of a task. -/
abbrev Step (E : Type) := Program.Step (Effect.Reply E)

/-- What a step writes to the log. -/
def Step.message? (s : Step E) : Option String :=
  match s.request with
  | .log message => some message
  | _ => none

/-- The messages that a path writes to the log. -/
def messages (steps : List (Step E)) : List String := steps.filterMap Step.message?

@[simp] theorem messages_nil : messages ([] : List (Step E)) = [] := rfl

@[simp] theorem messages_append (first rest : List (Step E)) :
    messages (first ++ rest) = messages first ++ messages rest :=
  List.filterMap_append ..

@[simp] theorem messages_cons (s : Step E) (rest : List (Step E)) :
    messages (s :: rest) = s.message?.toList ++ messages rest := by
  cases h : s.message? <;> simp [messages, h]

/-! ## Paths to the end of a task -/

/-- The task ends in this way if its requests are answered as `steps` tells. -/
def Ends (t : Task E ε α) (steps : List (Step E)) (e : Ending ε α) : Prop :=
  Program.Leads t steps (.done e)

theorem ends_ended_iff {e e' : Ending ε α} {steps : List (Step E)} :
    (ended e : Task E ε α).Ends steps e' ↔ steps = [] ∧ e' = e := by
  refine Program.leads_done_iff.trans (and_congr_right fun _ => ⟨fun h => ?_, fun h => h ▸ rfl⟩)
  cases h
  rfl

theorem ends_pure_value_iff {a b : α} {steps : List (Step E)} :
    (pure a : Task E ε α).Ends steps (.value b) ↔ steps = [] ∧ b = a :=
  ends_ended_iff.trans (by simp)

/-- A composed task that ends with a value has ended with one in its first part. -/
theorem ends_bind_value_iff {t : Task E ε α} {f : α → Task E ε β} {steps : List (Step E)} {b : β} :
    (t >>= f).Ends steps (.value b) ↔
      ∃ first rest a, steps = first ++ rest ∧ t.Ends first (.value a) ∧
        (f a).Ends rest (.value b) := by
  refine Program.leads_bind_done_iff.trans ⟨?_, ?_⟩
  · rintro ⟨first, rest, e, rfl, hfirst, hrest⟩
    cases e with
    | value a => exact ⟨first, rest, a, rfl, hfirst, hrest⟩
    | failed e => exact nomatch (ends_ended_iff.mp hrest).2
    | panicked p => exact nomatch (ends_ended_iff.mp hrest).2
  · rintro ⟨first, rest, a, rfl, hfirst, hrest⟩
    exact ⟨first, rest, .value a, rfl, hfirst, hrest⟩

/-- A task that asks one request and ends with a value has that request as its
path. -/
theorem ends_ask_value {r : Effect E} {value : r.Reply E → α} {steps : List (Step E)}
    {e : Ending ε α} (h : Ends (Program.ask r fun reply => ended (.value (value reply))) steps e) :
    ∃ reply, steps = [⟨r, reply⟩] ∧ e = .value (value reply) := by
  obtain ⟨reply, rest, rfl, hrest⟩ := Program.leads_ask_done_iff.mp h
  obtain ⟨rfl, rfl⟩ := ends_ended_iff.mp hrest
  exact ⟨reply, rfl, rfl⟩

theorem steps_of_ends_log {message : String} {steps : List (Step E)} {e : Ending ε Unit}
    (h : (Task.log message).Ends steps e) : steps = [⟨.log message, ()⟩] := by
  obtain ⟨_, rfl, _⟩ := ends_ask_value h
  rfl

theorem steps_of_ends_now {steps : List (Step E)} {n : Nat}
    (h : (Task.now : Task E ε Nat).Ends steps (.value n)) : steps = [⟨.now, n⟩] := by
  obtain ⟨m, rfl, hm⟩ := ends_ask_value h
  cases hm
  rfl

end Task

end BrowserSuite
