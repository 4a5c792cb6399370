import BrowserSuite.Engine.Wait
import BrowserSuite.Proofs.Wait.Clock
import Mathlib.Algebra.Order.Floor.Div

/-!
# The course of a wait

A wait makes attempts at an operation.  `Tries v made u` follows it from the state `v` of
one attempt to the state `u` of the last one: an attempt that failed with a transient error
before the deadline is followed by a pause and another attempt (`again`, `resume`), and any
other one is the last.

The loop is bounded by a number of attempts, but never ends for that reason.  What carries
the argument is how far away the deadline is: no attempt begins after it, and every further
attempt brings it nearer by a poll interval, the last pause apart, which ends on it.  So
there are at most as many attempts as `exists_tries` counts, and with that many the loop goes
along `Tries` to its end (`Tries.run`, `Tries.asked`), whatever the bound is.

`wait_follows_its_course` puts the facts together for a whole wait: which attempts it makes
and what it asks for between them, how many they are, how it ends, and how late a timeout is.
-/

namespace BrowserSuite.WaitPolicy

variable {σ E α : Type} {answer : σ → (r : Effect E) → r.Reply E × σ} {clock : σ → Nat}
  {p : WaitPolicy} {operation : Task E BrowserError α} {awaited : String} {deadline : Nat}

/-! ## One attempt -/

/-- Whether an attempt is followed by another one: it failed with a transient error, and
ended before the deadline. -/
def again (clock : σ → Nat) (deadline : Nat) : Ending BrowserError α × σ → Bool
  | (.failed e, v) => e.isTransient && decide (clock v < deadline)
  | _ => false

/-- The state in which the next attempt is made: the poll interval has passed, or what was
left until the deadline. -/
def resume (answer : σ → (r : Effect E) → r.Reply E × σ) (clock : σ → Nat) (p : WaitPolicy)
    (deadline : Nat) (v : σ) : σ :=
  (answer v (.sleepUntil (min (clock v + p.poll) deadline))).2

/-- What a wait asks for after an attempt: the time, if the attempt failed with a transient
error, and a pause, if the deadline has not come. -/
def between (clock : σ → Nat) (p : WaitPolicy) (deadline : Nat) :
    Ending BrowserError α × σ → List (σ × Effect E)
  | (.failed e, v) =>
    if e.isTransient then
      (v, .now) ::
        if clock v < deadline then [(v, .sleepUntil (min (clock v + p.poll) deadline))] else []
    else []
  | _ => []

/-- The ending of a wait whose last attempt ended in some way. -/
def verdict (awaited : String) : Ending BrowserError α → Ending RunError α
  | .value a => .value a
  | .failed e => .failed (if e.isTransient then .timeout awaited else RunError.ofBrowser e)
  | .panicked q => .panicked q

theorem again_iff {x : Ending BrowserError α × σ} :
    again clock deadline x = true ↔
      ∃ e, x.1 = .failed e ∧ e.isTransient = true ∧ clock x.2 < deadline := by
  obtain ⟨_ | e | _, v⟩ := x <;> simp [again]

/-- A wait whose last attempt ended so ends with a timeout if that failed with a transient
error, and otherwise never. -/
theorem verdict_eq_timeout_iff {x : Ending BrowserError α} :
    verdict awaited x = .failed (.timeout awaited) ↔ ∃ e, x = .failed e ∧ e.isTransient = true := by
  cases x with
  | failed e =>
      cases htransient : e.isTransient <;> simp [verdict, htransient]
      cases e <;> simp [RunError.ofBrowser]
  | value a | panicked q => simp [verdict]

/-- The next attempt begins after the poll interval or at the deadline. -/
theorem clock_resume (h : Timed answer clock) {v : σ} (hv : clock v < deadline) :
    clock (resume answer clock p deadline v) = min (clock v + p.poll) deadline := by
  rw [resume, h.sleepUntil]
  omega

/-! ## The loop -/

/-- What is done at a time after an attempt that failed with a transient error, given what is
done after the next one. -/
def pause (p : WaitPolicy) (awaited : String) (deadline : Nat) (rest : Task E RunError α)
    (now : Nat) : Task E RunError α :=
  if deadline ≤ now then Task.fail (.timeout awaited)
  else Task.sleepUntil (min (now + p.poll) deadline) >>= fun _ => rest

/-- What is done after an attempt, given what is done after the next one. -/
def follow (p : WaitPolicy) (awaited : String) (deadline : Nat) (rest : Task E RunError α) :
    Ending BrowserError α → Task E RunError α
  | .value a => pure a
  | .panicked q => Task.panicWith q
  | .failed e =>
    if e.isTransient then Program.ask .now (pause p awaited deadline rest)
    else Task.fail (RunError.ofBrowser e)

theorem attempts_succ (p : WaitPolicy) (operation : Task E BrowserError α) (awaited : String)
    (deadline fuel : Nat) :
    p.attempts operation awaited deadline (fuel + 1) =
      Program.bind operation
        (follow p awaited deadline (p.attempts operation awaited deadline fuel)) := by
  refine (Program.bind_assoc operation _ _).trans (congrArg (Program.bind operation) ?_)
  funext x
  cases x <;> rfl

/-- The loop makes an attempt and goes on after it. -/
theorem run_loop_succ (fuel : Nat) (v : σ) :
    Program.run answer (p.attempts operation awaited deadline (fuel + 1)) v =
      Program.run answer (follow p awaited deadline (p.attempts operation awaited deadline fuel)
        (Program.run answer operation v).1) (Program.run answer operation v).2 :=
  (congrArg (Program.run answer · v) (attempts_succ p operation awaited deadline fuel)).trans
    (Program.run_bind answer operation _ v)

theorem asked_loop_succ (fuel : Nat) (v : σ) :
    Program.asked answer (p.attempts operation awaited deadline (fuel + 1)) v =
      Program.asked answer operation v ++
        Program.asked answer (follow p awaited deadline (p.attempts operation awaited deadline fuel)
          (Program.run answer operation v).1) (Program.run answer operation v).2 :=
  (congrArg (Program.asked answer · v) (attempts_succ p operation awaited deadline fuel)).trans
    (Program.asked_bind operation _ v)

/-- After a transient error the wait asks for the time. -/
theorem run_follow_of_transient (h : Timed answer clock) (p : WaitPolicy) (awaited : String)
    (deadline : Nat) (rest : Task E RunError α) {e : BrowserError}
    (htransient : e.isTransient = true) (v : σ) :
    Program.run answer (follow p awaited deadline rest (.failed e)) v =
        Program.run answer (pause p awaited deadline rest (clock v)) v ∧
      Program.asked answer (follow p awaited deadline rest (.failed e)) v =
        (v, .now) :: Program.asked answer (pause p awaited deadline rest (clock v)) v := by
  have hfollow : follow p awaited deadline rest (.failed e) =
      Program.ask .now (pause p awaited deadline rest) := if_pos htransient
  rw [hfollow]
  exact h.run_now _ v

/-- After an attempt that is followed by another one, that one begins. -/
theorem run_follow_of_again (h : Timed answer clock) (rest : Task E RunError α)
    {x : Ending BrowserError α × σ} (hx : again clock deadline x = true) :
    Program.run answer (follow p awaited deadline rest x.1) x.2 =
        Program.run answer rest (resume answer clock p deadline x.2) ∧
      Program.asked answer (follow p awaited deadline rest x.1) x.2 =
        between clock p deadline x ++
          Program.asked answer rest (resume answer clock p deadline x.2) := by
  obtain ⟨e, he, htransient, hbefore⟩ := again_iff.mp hx
  obtain ⟨x, v⟩ := x
  cases he
  have hpause : pause p awaited deadline rest (clock v) =
      (Task.sleepUntil (min (clock v + p.poll) deadline) >>= fun _ => rest) :=
    if_neg (Nat.not_le.mpr hbefore)
  have hfollow := run_follow_of_transient h p awaited deadline rest htransient v
  rw [hpause] at hfollow
  simp only [between, htransient, if_true, if_pos hbefore]
  exact hfollow

/-- After the last attempt, the wait ends as that one did. -/
theorem run_follow_of_not_again (h : Timed answer clock) (rest : Task E RunError α)
    {x : Ending BrowserError α × σ} (hx : again clock deadline x = false) :
    Program.run answer (follow p awaited deadline rest x.1) x.2 = (verdict awaited x.1, x.2) ∧
      Program.asked answer (follow p awaited deadline rest x.1) x.2 =
        between clock p deadline x := by
  obtain ⟨a | e | q, v⟩ := x
  · exact ⟨rfl, rfl⟩
  · cases htransient : e.isTransient with
    | false =>
        have hfollow : follow p awaited deadline rest (.failed e) =
            Task.fail (RunError.ofBrowser e) := if_neg (Bool.eq_false_iff.mp htransient)
        simp only [between, verdict, htransient, hfollow]
        exact ⟨rfl, rfl⟩
    | true =>
        have hafter : deadline ≤ clock v := by simpa [again, htransient] using hx
        have hpause : pause p awaited deadline rest (clock v) = Task.fail (.timeout awaited) :=
          if_pos hafter
        have hfollow := run_follow_of_transient h p awaited deadline rest htransient v
        rw [hpause] at hfollow
        simp only [between, verdict, htransient, if_true, if_neg (Nat.not_lt.mpr hafter)]
        exact hfollow
  · exact ⟨rfl, rfl⟩

/-! ## All attempts -/

/-- From one attempt to the last one.  The list holds the states in which the attempts
begin. -/
inductive Tries (answer : σ → (r : Effect E) → r.Reply E × σ) (clock : σ → Nat)
    (p : WaitPolicy) (operation : Task E BrowserError α) (deadline : Nat) :
    σ → List σ → σ → Prop
  | last {v : σ} (hend : again clock deadline (Program.run answer operation v) = false) :
      Tries answer clock p operation deadline v [v] v
  | next {v u : σ} {made : List σ}
      (hagain : again clock deadline (Program.run answer operation v) = true)
      (hrest : Tries answer clock p operation deadline
        (resume answer clock p deadline (Program.run answer operation v).2) made u) :
      Tries answer clock p operation deadline v (v :: made) u

namespace Tries

variable {v u : σ} {made : List σ}

theorem head? (h : Tries answer clock p operation deadline v made u) : made.head? = some v := by
  cases h <;> rfl

theorem getLast? (h : Tries answer clock p operation deadline v made u) :
    made.getLast? = some u := by
  induction h with
  | last hend => rfl
  | @next v u made hagain hrest ih =>
      rw [List.getLast?_cons, ih]
      rfl

/-- The last attempt is not followed by another one. -/
theorem again_last (h : Tries answer clock p operation deadline v made u) :
    again clock deadline (Program.run answer operation u) = false := by
  induction h with
  | last hend => exact hend
  | next hagain hrest ih => exact ih

/-- Every attempt decides whether there is a next one. -/
theorem getElem?_succ (h : Tries answer clock p operation deadline v made u) {i : Nat} {w : σ}
    (hw : made[i]? = some w) :
    made[i + 1]? = if again clock deadline (Program.run answer operation w) then
      some (resume answer clock p deadline (Program.run answer operation w).2) else none := by
  induction h generalizing i with
  | last hend =>
      cases i with
      | zero =>
          cases hw
          rw [hend]
          rfl
      | succ i => cases hw
  | @next v u made hagain hrest ih =>
      cases i with
      | zero =>
          cases hw
          rw [hagain, List.getElem?_cons_succ, ← List.head?_eq_getElem?, hrest.head?]
          rfl
      | succ i => exact ih hw

/-- What holds of the first attempt and is handed on from each to the next holds of all. -/
theorem forall_mem {Q : σ → Prop}
    (hnext : ∀ w, Q w → again clock deadline (Program.run answer operation w) = true →
      Q (resume answer clock p deadline (Program.run answer operation w).2))
    (h : Tries answer clock p operation deadline v made u) (hv : Q v) : ∀ w ∈ made, Q w := by
  induction h with
  | last hend => simpa using hv
  | next hagain hrest ih => exact List.forall_mem_cons.mpr ⟨hv, ih (hnext _ hv hagain)⟩

theorem last_mem (h : Tries answer clock p operation deadline v made u) : u ∈ made :=
  List.mem_of_getLast? h.getLast?

/-- No attempt begins after the deadline. -/
theorem clock_le (htimed : Timed answer clock)
    (h : Tries answer clock p operation deadline v made u) (hv : clock v ≤ deadline) :
    ∀ w ∈ made, clock w ≤ deadline := by
  refine h.forall_mem (fun w _ hagain => ?_) hv
  obtain ⟨e, -, -, hbefore⟩ := again_iff.mp hagain
  rw [clock_resume htimed hbefore]
  exact Nat.min_le_right _ _

/-- A loop that is long enough goes along the attempts to the end of the last one. -/
theorem run (htimed : Timed answer clock) (h : Tries answer clock p operation deadline v made u)
    {fuel : Nat} (hfuel : made.length ≤ fuel) :
    Program.run answer (p.attempts operation awaited deadline fuel) v =
      (verdict awaited (Program.run answer operation u).1, (Program.run answer operation u).2) := by
  induction h generalizing fuel with
  | last hend =>
      obtain ⟨fuel, rfl⟩ := Nat.exists_eq_add_of_le' hfuel
      rw [List.length_singleton, run_loop_succ]
      exact (run_follow_of_not_again htimed _ hend).1
  | next hagain hrest ih =>
      cases fuel with
      | zero => cases hfuel
      | succ fuel =>
          rw [run_loop_succ, (run_follow_of_again htimed _ hagain).1]
          exact ih (Nat.le_of_succ_le_succ hfuel)

/-- It asks what the attempts ask, and between them for the time and for pauses. -/
theorem asked (htimed : Timed answer clock) (h : Tries answer clock p operation deadline v made u)
    {fuel : Nat} (hfuel : made.length ≤ fuel) :
    Program.asked answer (p.attempts operation awaited deadline fuel) v =
      made.flatMap fun w => Program.asked answer operation w ++
        between clock p deadline (Program.run answer operation w) := by
  induction h generalizing fuel with
  | last hend =>
      obtain ⟨fuel, rfl⟩ := Nat.exists_eq_add_of_le' hfuel
      rw [List.length_singleton, asked_loop_succ, (run_follow_of_not_again htimed _ hend).2]
      simp
  | next hagain hrest ih =>
      cases fuel with
      | zero => cases hfuel
      | succ fuel =>
          rw [asked_loop_succ, (run_follow_of_again htimed _ hagain).2,
            ih (Nat.le_of_succ_le_succ hfuel), List.flatMap_cons, List.append_assoc]

end Tries

/-- If the deadline is no more than `n` poll intervals away, there are at most `n + 1`
attempts. -/
theorem exists_tries (htimed : Timed answer clock) (n : Nat) (v : σ)
    (hdeadline : deadline ≤ clock v + n * p.poll) :
    ∃ made u, Tries answer clock p operation deadline v made u ∧ made.length ≤ n + 1 := by
  induction n generalizing v with
  | zero =>
      refine ⟨[v], v, .last (Bool.eq_false_iff.mpr fun hagain => ?_), Nat.le_refl _⟩
      obtain ⟨e, -, -, hbefore⟩ := again_iff.mp hagain
      have hlate := htimed.le_run operation v
      omega
  | succ n ih =>
      cases hagain : again clock deadline (Program.run answer operation v) with
      | false => exact ⟨[v], v, .last hagain, Nat.le_add_left _ _⟩
      | true =>
          obtain ⟨e, -, -, hbefore⟩ := again_iff.mp hagain
          have hlate := htimed.le_run operation v
          have hcloser : deadline ≤
              clock (resume answer clock p deadline (Program.run answer operation v).2) +
                n * p.poll := by
            rw [clock_resume htimed hbefore]
            rw [Nat.succ_mul] at hdeadline
            omega
          obtain ⟨made, u, htries, hlength⟩ := ih _ hcloser
          exact ⟨v :: made, u, .next hagain htries, Nat.succ_le_succ hlength⟩

/-! ## The wait -/

/-- The course of a wait that makes attempts in some states.  The deadline is the timeout
after the time at which it begins. -/
structure Course (answer : σ → (r : Effect E) → r.Reply E × σ) (clock : σ → Nat) (p : WaitPolicy)
    (operation : Task E BrowserError α) (awaited : String) (s : σ) (made : List σ) : Prop where
  /-- The first attempt is made at once. -/
  first : made.head? = some s
  /-- Another attempt is made exactly if one failed with a transient error before the
  deadline, and then after a pause. -/
  next : ∀ i v, made[i]? = some v →
    made[i + 1]? = if again clock (clock s + p.timeout) (Program.run answer operation v) then
      some (resume answer clock p (clock s + p.timeout) (Program.run answer operation v).2)
    else none
  /-- All that the wait asks is asked by its attempts or between them. -/
  asked : Program.asked answer (p.wait operation awaited) s =
    (s, .now) :: made.flatMap fun v => Program.asked answer operation v ++
      between clock p (clock s + p.timeout) (Program.run answer operation v)
  bounded : made.length ≤ p.timeout ⌈/⌉ p.poll + 1
  /-- No attempt begins after the deadline, nor ever at a time that the clock cannot hold. -/
  timely : ∀ v ∈ made, clock v ≤ clock s + p.timeout ∧ Clock.InRange (clock v)
  /-- The wait ends where its last attempt ends, and that decides how. -/
  ends : ∃ v, made.getLast? = some v ∧ Program.run answer (p.wait operation awaited) s =
    (verdict awaited (Program.run answer operation v).1, (Program.run answer operation v).2)
  /-- A timeout is no earlier than it has to be, and late by no more than the last attempt. -/
  late : (Program.run answer (p.wait operation awaited) s).1 = .failed (.timeout awaited) →
    p.timeout ≤ Program.elapsed answer clock (p.wait operation awaited) s ∧
      ∀ v, made.getLast? = some v →
        Program.elapsed answer clock (p.wait operation awaited) s ≤
          p.timeout + Program.elapsed answer clock operation v
  /-- A timeout after attempts that took no time is not late at all. -/
  exact : (Program.run answer (p.wait operation awaited) s).1 = .failed (.timeout awaited) →
    (∀ v ∈ made, Program.elapsed answer clock operation v = 0) →
      Program.elapsed answer clock (p.wait operation awaited) s = p.timeout

theorem maxAttempts_eq (hpoll : 0 < p.poll) : p.maxAttempts = p.timeout ⌈/⌉ p.poll + 1 := by
  rw [maxAttempts, if_neg (Nat.ne_of_gt hpoll), Nat.ceilDiv_eq_add_pred_div]

/-- A wait with a poll interval makes as many attempts as it needs. -/
theorem exists_tries_wait (htimed : Timed answer clock) (hpoll : 0 < p.poll)
    (operation : Task E BrowserError α) (s : σ) :
    ∃ made u, Tries answer clock p operation (clock s + p.timeout) s made u ∧
      made.length ≤ p.maxAttempts := by
  rw [maxAttempts_eq hpoll]
  refine exists_tries htimed _ s ?_
  calc clock s + p.timeout
      ≤ clock s + p.poll * (p.timeout ⌈/⌉ p.poll) :=
        Nat.add_le_add_left (le_smul_ceilDiv hpoll) _
    _ = clock s + (p.timeout ⌈/⌉ p.poll) * p.poll := by rw [Nat.mul_comm]

/-- A wait ends where its last attempt ends. -/
theorem Tries.run_wait (htimed : Timed answer clock) {s u : σ} {made : List σ}
    (h : Tries answer clock p operation (clock s + p.timeout) s made u)
    (hlength : made.length ≤ p.maxAttempts) (awaited : String) :
    Program.run answer (p.wait operation awaited) s =
      (verdict awaited (Program.run answer operation u).1, (Program.run answer operation u).2) :=
  (htimed.run_now (fun start => p.attempts operation awaited (start + p.timeout) p.maxAttempts)
    s).1.trans (h.run htimed hlength)

/-- Along its attempts, a wait takes its course. -/
theorem Tries.course (htimed : Timed answer clock) {s u : σ} {made : List σ}
    (h : Tries answer clock p operation (clock s + p.timeout) s made u)
    (hlength : made.length ≤ p.maxAttempts) (hpoll : 0 < p.poll)
    (hrange : Clock.InRange (clock s + p.timeout)) :
    Course answer clock p operation awaited s made := by
  have hasked := (htimed.run_now
    (fun start => p.attempts operation awaited (start + p.timeout) p.maxAttempts) s).2
  have hwait := h.run_wait htimed hlength awaited
  have helapsed : Program.elapsed answer clock (p.wait operation awaited) s =
      clock (Program.run answer operation u).2 - clock s := by
    unfold Program.elapsed
    rw [hwait]
  -- the last attempt of a wait that ends with a timeout begins by the deadline and ends after it
  have hlate : (Program.run answer (p.wait operation awaited) s).1 = .failed (.timeout awaited) →
      clock s + p.timeout ≤ clock (Program.run answer operation u).2 := by
    intro htimeout
    rw [hwait] at htimeout
    obtain ⟨e, he, htransient⟩ := verdict_eq_timeout_iff.mp htimeout
    refine Nat.le_of_not_lt fun hbefore => ?_
    have hagain := again_iff.mpr ⟨e, he, htransient, hbefore⟩
    rw [h.again_last] at hagain
    cases hagain
  have htimely : ∀ v ∈ made, clock v ≤ clock s + p.timeout :=
    h.clock_le htimed (Nat.le_add_right _ _)
  have hlast := htimely u h.last_mem
  refine ⟨h.head?, fun i v => h.getElem?_succ, ?_, ?_,
    fun v hv => ⟨htimely v hv, hrange.mono (htimely v hv)⟩, ⟨u, h.getLast?, hwait⟩, ?_, ?_⟩
  · exact hasked.trans (congrArg ((s, Effect.now) :: ·) (h.asked htimed hlength))
  · rw [← maxAttempts_eq hpoll]
    exact hlength
  · intro htimeout
    have hend := hlate htimeout
    refine ⟨by omega, fun v hv => ?_⟩
    cases h.getLast?.symm.trans hv
    rw [helapsed]
    unfold Program.elapsed
    omega
  · intro htimeout hnone
    have hend := hlate htimeout
    have hprompt := hnone u h.last_mem
    unfold Program.elapsed at hprompt
    omega

/-- However its attempts end and however long they take, a wait with a poll interval takes
its course if the clock can hold its deadline. -/
theorem wait_follows_its_course (htimed : Timed answer clock) (hpoll : 0 < p.poll)
    (operation : Task E BrowserError α) (awaited : String) (s : σ)
    (hrange : Clock.InRange (clock s + p.timeout)) :
    ∃ made, Course answer clock p operation awaited s made := by
  obtain ⟨made, u, htries, hlength⟩ := exists_tries_wait htimed hpoll operation s
  exact ⟨made, htries.course htimed hlength hpoll hrange⟩

/-- A browser that finds nothing: it needs 30 ms to say so the first time, 90 ms the second
time and 60 ms from then on. -/
def slow : World :=
  let rule (delay : Nat) (times : Option Nat) (error : BrowserError) : Scripted.Rule :=
    ⟨"navigate", none, 0, times, delay, false, none, some error⟩
  ⟨.start { Scripted.blank with rules :=
    [rule 30 (some 1) (.staleElement "row"), rule 90 (some 1) (.noSuchElement "row"),
      rule 60 none (.staleElement "row")] } none 0, .empty, []⟩

/-- The third attempt begins at the deadline, and the timeout is late by all of it. -/
theorem wait_follows_its_course_slow :
    let p : WaitPolicy := ⟨250, 100, by decide⟩
    let operation : Task Handle BrowserError Unit := Task.call (.navigate "")
    0 < p.poll ∧ Clock.InRange (slow.site.clock + p.timeout) ∧
      (∃ made, Course World.answer (fun w => w.site.clock) p operation "row" slow made) ∧
      (slow.run (p.wait operation "row")).1 = .failed (.timeout "row") ∧
      (slow.run (p.wait operation "row")).2.site.clock = 310 ∧
      (slow.run (p.wait operation "row")).2.site.browser.counts = [("navigate", 3)] := by
  intro p operation
  have hpoll : 0 < p.poll := by decide
  have hrange : Clock.InRange (slow.site.clock + p.timeout) := by decide
  exact ⟨hpoll, hrange, wait_follows_its_course World.timed hpoll operation "row" slow hrange,
    by decide +kernel, by decide +kernel, by decide +kernel⟩

end BrowserSuite.WaitPolicy
