import BrowserSuite.Proofs.Page.Parts
import BrowserSuite.Proofs.Program.Endings

/-!
# What a page asks, and how it panics

A property of tasks that goes through composition holds of all that is done for an
action: `Part.keeps` takes a `Task.ActionLaw`, one clause for each way to compose tasks.
Two properties of every path are proved in this way.

* `Asks Q t`: all requests of the task satisfy `Q`.  A probe asks the session and nothing
  else, and what is done for an action never looks whether the run has been cancelled.
* `PanicsByCall own t`: the task panics with the panic of one of its calls or with one of
  its own.
-/

namespace BrowserSuite

namespace Task

variable {E ε ε' α β : Type} {Q : Effect E → Prop} {t : Task E ε α}

/-! ## Requests -/

/-- All requests of a task satisfy `Q`, on every path to its end. -/
def Asks (Q : Effect E → Prop) (t : Task E ε α) : Prop :=
  ∀ steps e, t.Ends steps e → ∀ s ∈ steps, Q s.request

namespace Asks

theorem ended (e : Ending ε α) : Asks Q (Task.ended e) := by
  intro steps e' h
  obtain ⟨rfl, -⟩ := ends_ended_iff.mp h
  simp

theorem pure (a : α) : Asks Q (Pure.pure a : Task E ε α) := ended (.value a)

theorem fail (e : ε) : Asks Q (Task.fail e : Task E ε α) := ended (.failed e)

theorem ask {r : Effect E} {next : r.Reply E → Task E ε α} (hr : Q r)
    (hnext : ∀ reply, Asks Q (next reply)) : Asks Q (Program.ask r next : Task E ε α) := by
  intro steps e h
  obtain ⟨reply, rest, rfl, hrest⟩ := Program.leads_ask_done_iff.mp h
  exact List.forall_mem_cons.mpr ⟨hr, hnext reply rest e hrest⟩

theorem call {c : Call E} (hc : Q (.call c)) : Asks Q (Task.call c) := ask hc fun r => ended r

theorem bind {f : α → Task E ε β} (ht : Asks Q t) (hf : ∀ a, Asks Q (f a)) :
    Asks Q (t >>= f) := by
  intro steps e h
  rcases ends_bind_cases h with ⟨first, rest, a, rfl, hfirst, hrest⟩ | ⟨err, -, h⟩ | ⟨p, -, h⟩
  · exact List.forall_mem_append.mpr ⟨ht _ _ hfirst, hf a _ _ hrest⟩
  · exact ht _ _ h
  · exact ht _ _ h

theorem attempt (ht : Asks Q t) : Asks Q (t.attempt : Task E ε' (Except ε α)) := by
  intro steps e h
  obtain ⟨x, hx, -⟩ := ends_attempt_iff.mp h
  exact ht _ _ hx

theorem mapError (ht : Asks Q t) (g : ε → ε') : Asks Q (t.mapError g) := by
  intro steps e h
  obtain ⟨x, hx, -⟩ := ends_mapError_iff.mp h
  exact ht _ _ hx

theorem ending (ht : Asks Q t) : Asks Q t.ending := by
  intro steps e h
  obtain ⟨x, hx, -⟩ := ends_ending_iff.mp h
  exact ht _ _ hx

theorem mono {Q' : Effect E → Prop} (ht : Asks Q t) (h : ∀ r, Q r → Q' r) : Asks Q' t :=
  fun steps e hends s hs => h _ (ht steps e hends s hs)

/-- What a task asks next satisfies `Q`, wherever a path has led it. -/
theorem of_leads (ht : Asks Q t) {steps : List (Step E)} {r : Effect E}
    {next : r.Reply E → Task E ε α} (h : Program.Leads t steps (Program.ask r next)) : Q r := by
  have hreply : ∀ r : Effect E, Nonempty (r.Reply E) := by
    intro r
    cases r with
    | call c => exact ⟨.panicked .fatal⟩
    | draw => exact ⟨(⟨0, by decide⟩ : Fin maxDraw)⟩
    | readStore => exact ⟨Store.empty⟩
    | now | frameBound => exact ⟨(0 : Nat)⟩
    | isCancelled => exact ⟨true⟩
    | sleep | sleepUntil | setVariable | log => exact ⟨()⟩
  obtain ⟨rest, e, hrest⟩ := Program.exists_leads_done hreply (Program.ask r next)
  obtain ⟨reply, rest, rfl, -⟩ := Program.leads_ask_done_iff.mp hrest
  exact ht _ e (h.trans hrest) ⟨r, reply⟩ (by simp)

end Asks

/-! ## Panics -/

/-- The panic with which a step's call was answered. -/
def Step.panic? (s : Step E) : Option Panic :=
  match s with
  | ⟨.call _, .panicked p⟩ => some p
  | _ => none

theorem Step.panic?_call_iff {c : Call E} {reply : Ending BrowserError c.Reply} {p : Panic} :
    Step.panic? ⟨.call c, reply⟩ = some p ↔ reply = .panicked p := by
  cases reply <;> simp [Step.panic?]

/-- A task panics with the panic of one of its calls, or with one of its own. -/
def PanicsByCall (own : Panic → Prop) (t : Task E ε α) : Prop :=
  ∀ steps p, t.Ends steps (.panicked p) → own p ∨ ∃ s ∈ steps, s.panic? = some p

namespace PanicsByCall

variable {own : Panic → Prop}

theorem pure (a : α) : PanicsByCall own (Pure.pure a : Task E ε α) :=
  fun _ _ h => nomatch (ends_ended_iff.mp h).2

theorem fail (e : ε) : PanicsByCall own (Task.fail e : Task E ε α) :=
  fun _ _ h => nomatch (ends_ended_iff.mp h).2

theorem panicWith {p : Panic} (hp : own p) : PanicsByCall own (Task.panicWith p : Task E ε α) := by
  intro steps p h
  cases (ends_ended_iff.mp h).2
  exact .inl hp

theorem ask {r : Effect E} {value : r.Reply E → α} :
    PanicsByCall own
      (Program.ask r fun reply => Task.ended (.value (value reply)) : Task E ε α) := by
  intro steps p h
  obtain ⟨reply, -, hvalue⟩ := ends_ask_value h
  cases hvalue

theorem call (c : Call E) : PanicsByCall own (Task.call c) := by
  intro steps p h
  obtain rfl := ends_call_iff.mp h
  exact .inr ⟨_, List.mem_singleton_self _, rfl⟩

theorem bind {f : α → Task E ε β} (ht : PanicsByCall own t) (hf : ∀ a, PanicsByCall own (f a)) :
    PanicsByCall own (t >>= f) := by
  intro steps p h
  rcases ends_bind_cases h with ⟨first, rest, a, rfl, -, hrest⟩ | ⟨_, he, -⟩ | ⟨q, hq, h⟩
  · refine (hf a _ _ hrest).imp_right ?_
    rintro ⟨s, hs, hp⟩
    exact ⟨s, List.mem_append_right _ hs, hp⟩
  · cases he
  · cases hq
    exact ht _ _ h

theorem attempt (ht : PanicsByCall own t) :
    PanicsByCall own (t.attempt : Task E ε' (Except ε α)) := by
  intro steps p h
  obtain ⟨x, hx, hp⟩ := ends_attempt_iff.mp h
  cases x <;> cases hp
  exact ht _ _ hx

theorem mapError (ht : PanicsByCall own t) (g : ε → ε') : PanicsByCall own (t.mapError g) := by
  intro steps p h
  obtain ⟨x, hx, hp⟩ := ends_mapError_iff.mp h
  cases x <;> cases hp
  exact ht _ _ hx

end PanicsByCall

end Task

/-! ## All parts -/

/-- A property of tasks that is kept when tasks on the session are put together. -/
structure Task.SessionLaw {E : Type} (X : ∀ {ε α : Type}, Task E ε α → Prop) : Prop where
  pure : ∀ {ε α : Type} (a : α), X (pure a : Task E ε α)
  fail : ∀ {ε α : Type} (e : ε), X (Task.fail e : Task E ε α)
  call : ∀ c : Call E, c ≠ .quit → X (Task.call c)
  bind : ∀ {ε α β : Type} {t : Task E ε α} {f : α → Task E ε β}, X t → (∀ a, X (f a)) →
    X (t >>= f)
  attempt : ∀ {ε ε' α : Type} {t : Task E ε α}, X t → X (t.attempt : Task E ε' (Except ε α))

/-- A property of tasks that is kept when all that is done for an action is put together. -/
structure Task.ActionLaw {E : Type} (own : Panic → Prop)
    (X : ∀ {ε α : Type}, Task E ε α → Prop) : Prop extends Task.SessionLaw X where
  panicWith : ∀ {ε α : Type} {p : Panic}, own p → X (Task.panicWith p : Task E ε α)
  request : ∀ {ε α : Type} (r : Effect E) (value : r.Reply E → α),
    r.isPlain = true ∨ r = .frameBound →
      X (Program.ask r fun reply => Task.ended (.value (value reply)) : Task E ε α)
  mapError : ∀ {ε ε' α : Type} {t : Task E ε α} (g : ε → ε'), X t → X (t.mapError g)

theorem Task.Asks.sessionLaw {E : Type} {Q : Effect E → Prop}
    (hcall : ∀ c, c ≠ .quit → Q (.call c)) : SessionLaw fun {_ _} t => Asks Q t where
  pure := .pure
  fail := .fail
  call c hc := .call (hcall c hc)
  bind := .bind
  attempt := .attempt

theorem Task.Asks.actionLaw {E : Type} {own : Panic → Prop} {Q : Effect E → Prop}
    (hcall : ∀ c, c ≠ .quit → Q (.call c))
    (hrequest : ∀ r : Effect E, r.isPlain = true ∨ r = .frameBound → Q r) :
    ActionLaw own fun {_ _} t => Asks Q t where
  toSessionLaw := Asks.sessionLaw hcall
  panicWith _ := .ended _
  request r _ hr := .ask (hrequest r hr) fun _ => .ended _
  mapError g ht := ht.mapError g

theorem Task.PanicsByCall.sessionLaw {E : Type} (own : Panic → Prop) :
    SessionLaw (E := E) fun {_ _} t => PanicsByCall own t where
  pure := .pure
  fail := .fail
  call c _ := .call c
  bind := .bind
  attempt := .attempt

theorem Task.PanicsByCall.actionLaw {E : Type} (own : Panic → Prop) :
    ActionLaw (E := E) own fun {_ _} t => PanicsByCall own t where
  toSessionLaw := PanicsByCall.sessionLaw own
  panicWith := .panicWith
  request _ _ _ := .ask
  mapError g ht := ht.mapError g

namespace PageRun

variable {E α : Type} {X : ∀ {ε α : Type}, Task E ε α → Prop} {own : Panic → Prop}

theorem Probe.keeps {t : Task E BrowserError α} (ht : Probe t) (hX : Task.SessionLaw X) : X t := by
  induction ht with
  | pure a => exact hX.pure a
  | fail e => exact hX.fail e
  | call c hc => exact hX.call c hc
  | bind _ _ ih ihf => exact hX.bind ih ihf
  | trying _ _ _ hlost ih ihok iherror =>
      refine hX.bind (hX.attempt ih) fun r => ?_
      rcases attempt_cases r with ⟨a, rfl⟩ | ⟨d, rfl⟩ | ⟨e, rfl, he⟩
      · exact ihok a
      · rw [hlost]
        exact hX.fail _
      · exact iherror e he

theorem find_keeps (locator : Locator) (hX : Task.SessionLaw X)
    (hbound : X (Task.frameBound : Task E BrowserError Nat)) :
    X (FrameSearch.find locator : Task E BrowserError (Option (FrameMatch E))) := by
  refine hX.bind (hX.call _ nofun) fun _ => hX.bind hbound fun n => ?_
  refine hX.bind (hX.attempt ((probe_scan locator (n + 1) []).keeps hX))
    fun found => hX.bind (hX.attempt (hX.call _ nofun)) fun reset => ?_
  cases found with
  | error e => exact hX.fail e
  | ok m =>
      cases reset with
      | error e => exact hX.fail e
      | ok u => exact hX.pure m

theorem Attempt.keeps {t : Task E BrowserError α} (ht : Attempt t) (hX : Task.SessionLaw X)
    (hbound : X (Task.frameBound : Task E BrowserError Nat)) : X t := by
  cases ht with
  | probe ht => exact ht.keeps hX
  | seek locator =>
      refine hX.bind (find_keeps locator hX hbound) fun found => ?_
      cases found with
      | some found => exact hX.pure found
      | none => exact hX.fail _

theorem Part.keeps {t : Task E RunError α} (ht : Part own t) (hX : Task.ActionLaw own X) :
    X t := by
  induction ht with
  | pure a => exact hX.pure a
  | fail e => exact hX.fail e
  | panic hp => exact hX.panicWith hp
  | plain r hr value => exact hX.request r value (.inl hr)
  | probe ht => exact hX.mapError _ (ht.keeps hX.toSessionLaw)
  | bind _ _ ih ihf => exact hX.bind ih ihf
  | trying ht _ _ hlost ihok iherror =>
      have hattempt := ht.keeps hX.toSessionLaw (hX.request .frameBound id (.inr rfl))
      refine hX.bind (hX.attempt hattempt) fun r => ?_
      rcases attempt_cases r with ⟨a, rfl⟩ | ⟨d, rfl⟩ | ⟨e, rfl, he⟩
      · exact ihok a
      · rw [hlost]
        exact hX.fail _
      · exact iherror e he

/-- A probe asks the session and nothing else. -/
theorem Probe.asks {t : Task E BrowserError α} (ht : Probe t) :
    Task.Asks (∃ c, · = .call c) t :=
  ht.keeps (Task.Asks.sessionLaw fun c _ => ⟨c, rfl⟩)

/-- Nothing that is done for an action looks whether the run has been cancelled. -/
theorem Part.asks {t : Task E RunError α} (ht : Part own t) : Task.Asks (· ≠ .isCancelled) t := by
  refine ht.keeps (Task.Asks.actionLaw (fun c _ => by simp) ?_)
  rintro r hr rfl
  rcases hr with hr | hr <;> cases hr

/-- Nothing that is done for an action ends the session. -/
theorem Part.asks_not_quit {t : Task E RunError α} (ht : Part own t) :
    Task.Asks (· ≠ .call .quit) t := by
  refine ht.keeps (Task.Asks.actionLaw (fun c hc => by simpa using hc) ?_)
  rintro r hr rfl
  rcases hr with hr | hr <;> cases hr

/-- A probe panics only if one of its calls does. -/
theorem Probe.panicsByCall {t : Task E BrowserError α} (ht : Probe t) :
    Task.PanicsByCall (fun _ => False) t :=
  ht.keeps (Task.PanicsByCall.sessionLaw _)

/-- All that is done for an action panics only by a call or with a panic of its own. -/
theorem Part.panicsByCall {t : Task E RunError α} (ht : Part own t) : Task.PanicsByCall own t :=
  ht.keeps (Task.PanicsByCall.actionLaw own)

end PageRun

end BrowserSuite
