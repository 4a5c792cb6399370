import BrowserSuite.Proofs.Wait.Course

/-!
# Waiting for what becomes ready

An operation is awaited because nobody knows when it will be ready.  `ReadyAt` is an
operation that takes no time, fails with a transient error before some time and succeeds from
then on.  A wait misses nothing that is ready by its deadline, and it is as late as its poll
interval makes it and no later (`wait_for_ready`).

## Strategy

As no attempt takes time, attempt `k`, counted from zero, begins `min (poll * k) timeout`
after the call.  With `c = ⌈t / poll⌉` an attempt before number `c` is too early for an
operation that is ready after `t`, and number `c` is not, unless the deadline has cut its
time short.  `ReadyAt.last_attempt` carries along the attempts that they have not passed number
`c`; from there on only the time of the last attempt matters.
-/

namespace BrowserSuite.WaitPolicy

variable {σ E α : Type} {answer : σ → (r : Effect E) → r.Reply E × σ} {clock : σ → Nat}
  {p : WaitPolicy} {operation : Task E BrowserError α} {Q : σ → Prop} {ready t : Nat}

/-- An operation that takes no time and is ready from some time on, in whatever states it is
tried: those in `Q`, which neither an attempt nor a pause leaves. -/
structure ReadyAt (answer : σ → (r : Effect E) → r.Reply E × σ) (clock : σ → Nat)
    (operation : Task E BrowserError α) (Q : σ → Prop) (ready : Nat) : Prop where
  attempted : ∀ v, Q v → Q (Program.run answer operation v).2
  paused : ∀ v time, Q v → Q (answer v (.sleepUntil time)).2
  prompt : ∀ v, Q v → clock (Program.run answer operation v).2 = clock v
  early : ∀ v, Q v → clock v < ready →
    ∃ e, (Program.run answer operation v).1 = .failed e ∧ e.isTransient = true
  due : ∀ v, Q v → ready ≤ clock v → ∃ a, (Program.run answer operation v).1 = .value a

namespace ReadyAt

/-- An attempt is followed by another one exactly if it was made too early and before the
deadline. -/
theorem again_iff (h : ReadyAt answer clock operation Q ready) {v : σ} (hv : Q v)
    (deadline : Nat) :
    again clock deadline (Program.run answer operation v) = true ↔
      clock v < ready ∧ clock v < deadline := by
  have hprompt := h.prompt v hv
  constructor
  · intro hagain
    obtain ⟨e, he, -, hbefore⟩ := WaitPolicy.again_iff.mp hagain
    refine ⟨?_, by omega⟩
    by_contra hdue
    obtain ⟨a, ha⟩ := h.due v hv (Nat.le_of_not_lt hdue)
    cases he.symm.trans ha
  · rintro ⟨hearly, hbefore⟩
    obtain ⟨e, he, htransient⟩ := h.early v hv hearly
    exact WaitPolicy.again_iff.mpr ⟨e, he, htransient, by omega⟩

/-- When the last attempt is made. -/
theorem last_attempt (htimed : Timed answer clock) (hpoll : 0 < p.poll) {s u : σ}
    {made : List σ} (hs : Q s) (h : ReadyAt answer clock operation Q (clock s + t))
    (htries : Tries answer clock p operation (clock s + p.timeout) s made u) :
    Q u ∧ clock u = clock s + min (p.poll * (t ⌈/⌉ p.poll)) p.timeout := by
  have hcover : t ≤ p.poll * (t ⌈/⌉ p.poll) := le_smul_ceilDiv hpoll
  -- the invariant: the attempt is number `k`, and that is no later than `⌈t / poll⌉`
  have hmade : ∀ w ∈ made, Q w ∧
      ∃ k ≤ t ⌈/⌉ p.poll, clock w = clock s + min (p.poll * k) p.timeout := by
    refine htries.forall_mem ?_ ⟨hs, 0, Nat.zero_le _, by simp⟩
    rintro w ⟨hw, k, hk, hclock⟩ hagain
    obtain ⟨hearly, hbefore⟩ := (h.again_iff hw _).mp hagain
    have hprompt := h.prompt w hw
    have hnext : k < t ⌈/⌉ p.poll := by
      by_contra hlast
      have hmul : p.poll * (t ⌈/⌉ p.poll) ≤ p.poll * k :=
        Nat.mul_le_mul_left _ (Nat.le_of_not_lt hlast)
      omega
    refine ⟨h.paused _ _ (h.attempted w hw), k + 1, hnext, ?_⟩
    rw [clock_resume htimed (by omega), hprompt, Nat.mul_succ]
    omega
  obtain ⟨hu, k, hk, hclock⟩ := hmade u htries.last_mem
  refine ⟨hu, ?_⟩
  have hmul : p.poll * k ≤ p.poll * (t ⌈/⌉ p.poll) := Nat.mul_le_mul_left _ hk
  have hlast : ¬ (clock u < clock s + t ∧ clock u < clock s + p.timeout) := by
    rw [← h.again_iff hu, htries.again_last]
    exact Bool.false_ne_true
  by_cases hdue : clock s + t ≤ clock u
  · -- the attempt was not too early, so it is number `⌈t / poll⌉`
    have hfirst : t ⌈/⌉ p.poll ≤ k := (ceilDiv_le_iff_le_mul hpoll).mpr (by omega)
    rw [hclock, Nat.le_antisymm hk hfirst]
  · -- it was, so it was made at the deadline
    omega

end ReadyAt

/-- Let the clock be able to hold the deadline.  A wait for an operation that is ready `t` after
the call succeeds exactly if that is no later than the timeout.  It then ends at the first
multiple of the poll interval from there on, or at the deadline if that comes before.  Otherwise
it times out at the deadline.  Its end is a time that the clock can hold. -/
theorem wait_for_ready (htimed : Timed answer clock) (hpoll : 0 < p.poll) {s : σ}
    (hrange : Clock.InRange (clock s + p.timeout)) (hs : Q s)
    (h : ReadyAt answer clock operation Q (clock s + t)) (awaited : String) :
    let ending := (Program.run answer (p.wait operation awaited) s).1
    let elapsed := Program.elapsed answer clock (p.wait operation awaited) s
    ((∃ a, ending = .value a) ↔ t ≤ p.timeout) ∧
      (t ≤ p.timeout → elapsed = min (p.poll * (t ⌈/⌉ p.poll)) p.timeout) ∧
      (p.timeout < t → ending = .failed (.timeout awaited) ∧ elapsed = p.timeout) ∧
      Clock.InRange (clock s + elapsed) := by
  intro ending elapsed
  obtain ⟨made, u, htries, hlength⟩ := exists_tries_wait htimed hpoll operation s
  obtain ⟨hu, hclock⟩ := h.last_attempt htimed hpoll hs htries
  have hrun := htries.run_wait htimed hlength awaited
  have hending : ending = verdict awaited (Program.run answer operation u).1 :=
    congrArg Prod.fst hrun
  have helapsed : elapsed = min (p.poll * (t ⌈/⌉ p.poll)) p.timeout := by
    show clock (Program.run answer (p.wait operation awaited) s).2 - clock s = _
    rw [hrun, h.prompt u hu, hclock, Nat.add_sub_cancel_left]
  have hcover : t ≤ p.poll * (t ⌈/⌉ p.poll) := le_smul_ceilDiv hpoll
  have hvalue : t ≤ p.timeout → ∃ a, ending = .value a := by
    intro ht
    obtain ⟨a, ha⟩ := h.due u hu (by omega)
    exact ⟨a, by rw [hending, ha]; rfl⟩
  have htimeout : p.timeout < t → ending = .failed (.timeout awaited) := by
    intro ht
    rw [hending]
    exact verdict_eq_timeout_iff.mpr (h.early u hu (by omega))
  refine ⟨⟨?_, hvalue⟩, fun _ => helapsed, fun ht => ⟨htimeout ht, by omega⟩,
    hrange.mono (by omega)⟩
  rintro ⟨a, ha⟩
  by_contra hlate
  cases ha.symm.trans (htimeout (Nat.lt_of_not_le hlate))

/-- Looks for a row that is there from some time on. -/
def rowFrom (ready : Nat) : Task Handle BrowserError Unit := do
  let now ← Task.now
  if now < ready then Task.fail (.noSuchElement "row") else pure ()

theorem readyAt_rowFrom (ready : Nat) :
    ReadyAt World.answer (fun w => w.site.clock) (rowFrom ready) (fun _ => True) ready := by
  have hrun : ∀ w : World, w.run (rowFrom ready) =
      (if w.site.clock < ready then .failed (.noSuchElement "row") else .value (), w) := by
    intro w
    change w.run (if w.site.clock < ready then Task.fail _ else pure ()) = _
    split <;> rfl
  constructor
  · exact fun _ _ => trivial
  · exact fun _ _ _ => trivial
  · intro w _
    show (w.run (rowFrom ready)).2.site.clock = _
    rw [hrun]
  · intro w _ hearly
    show ∃ e, (w.run (rowFrom ready)).1 = .failed e ∧ _
    exact ⟨_, by rw [hrun, if_pos hearly], rfl⟩
  · intro w _ hdue
    show ∃ a, (w.run (rowFrom ready)).1 = .value a
    exact ⟨(), by rw [hrun, if_neg (Nat.not_lt.mpr hdue)]⟩

/-- The poll interval does not divide the timeout.  A row that comes exactly at the deadline
is found there, and one that comes a millisecond later is not. -/
theorem wait_for_ready_row :
    let p : WaitPolicy := ⟨250, 100, by decide⟩
    let w : World := ⟨{ Site.start .blank none 0 with clock := 40 }, .empty, []⟩
    let clock : World → Nat := fun w => w.site.clock
    0 < p.poll ∧ Clock.InRange (clock w + p.timeout) ∧
      (w.run (p.wait (rowFrom 290) "row")).1 = .value () ∧
      Program.elapsed World.answer clock (p.wait (rowFrom 290) "row") w = 250 ∧
      (w.run (p.wait (rowFrom 291) "row")).1 = .failed (.timeout "row") ∧
      Program.elapsed World.answer clock (p.wait (rowFrom 291) "row") w = 250 := by
  intro p w clock
  have hpoll : 0 < p.poll := by decide
  have hrange : Clock.InRange (clock w + p.timeout) := by decide
  obtain ⟨hfound, hwhen, -⟩ := wait_for_ready (t := 250) World.timed hpoll (s := w) hrange trivial
    (readyAt_rowFrom 290) "row"
  obtain ⟨-, -, hmissed, -⟩ := wait_for_ready (t := 251) World.timed hpoll (s := w) hrange trivial
    (readyAt_rowFrom 291) "row"
  obtain ⟨a, ha⟩ := hfound.mpr (by decide)
  obtain ⟨hending, hlate⟩ := hmissed (by decide)
  exact ⟨hpoll, hrange, ha, (hwhen (by decide)).trans (by decide), hending, hlate⟩

end BrowserSuite.WaitPolicy
