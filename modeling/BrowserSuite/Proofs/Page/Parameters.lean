import BrowserSuite.Proofs.Page.Requests

/-!
# Parameters that cannot be used

The parameters of an action are texts, and its instruction makes of them what it needs: the
kind of a locator, codes of keys, a length, a pause.  `Instruction.malformed?` says, from the
texts alone, of which parameter nothing can be made.  Such a parameter ends its instruction
with an error that names it, before the session is asked for anything (`rejects_execute`); only
the variable that is to be typed is read first.

The frame to switch to is not among these parameters: what is not a position is a name.
-/

namespace BrowserSuite

/-! ## Malformed parameters

What is wrong with a parameter, if anything is.
-/

namespace BadParameter

def ofKind? (kind : String) : Option BadParameter :=
  if By.ofName? kind = none then some (locatorKind kind) else none

def ofKeys? (names : String) : Option BadParameter :=
  match Keys.ofList names with
  | .ok _ => none
  | .error name => some (key name)

/-- A width or a height is a 32-bit number. -/
def ofDimension? (text : String) : Option BadParameter :=
  if Number.unsigned? (Nat.pow 2 32) text = none then some (dimension text) else none

/-- A delay is a number that is finite and not negative. -/
def ofDelay? (text : String) : Option BadParameter :=
  match Number.double? text with
  | some (.finite ms) =>
    if ms.negative = true ∧ ms.mantissa ≠ 0 then some (delay text) else none
  | _ => some (delay text)

end BadParameter

/-- The first parameter of an instruction of which nothing can be made. -/
def Instruction.malformed? : Instruction → Option BadParameter
  | gestureMove kind _ | clear kind _ | clearType kind _ _ | click kind _ | clickAll kind _
  | selectByText kind _ _ | selectByValue kind _ _ | typeText kind _ _ | typeVariable kind _ _
  | findFrame kind _ | storeAttribute kind _ _ _ | storeText kind _ _ | verifyText kind _ _ =>
    BadParameter.ofKind? kind
  | gestureKeys names => BadParameter.ofKeys? names
  | keys kind _ names => (BadParameter.ofKeys? names).or (BadParameter.ofKind? kind)
  | setWindowSize width height =>
    (BadParameter.ofDimension? width).or (BadParameter.ofDimension? height)
  | delay text => BadParameter.ofDelay? text
  | _ => none

/-- The variable that an instruction with a locator reads before it looks at the locator. -/
def Instruction.typedVariable? : Instruction → Option String
  | typeVariable _ _ key => some key
  | _ => none

namespace PageRun

variable {E α β : Type} {wait : WaitPolicy} {bad : BadParameter} {key? : Option String}

/-- A task that asks the session for nothing and ends with the error of a parameter, or before
that with the error of a variable that is not set. -/
def Rejects (bad : BadParameter) (key? : Option String) (t : Task E RunError α) : Prop :=
  ∀ steps x, t.Ends steps x →
    (∀ s ∈ steps, ∀ c, s.request ≠ .call c) ∧
      ∃ e, x = .failed e ∧
        (e = .invalidParameter bad ∨ ∃ key, key? = some key ∧ e = .unknownVariable key)

namespace Rejects

theorem fail : Rejects bad key? (Task.fail (.invalidParameter bad) : Task E RunError α) := by
  intro steps x h
  obtain ⟨rfl, rfl⟩ := Task.ends_ended_iff.mp h
  exact ⟨nofun, _, rfl, .inl rfl⟩

/-- Nothing is done after it. -/
theorem bind {t : Task E RunError α} (ht : Rejects bad key? t) (f : α → Task E RunError β) :
    Rejects bad key? (t >>= f) := by
  intro steps x h
  rcases Task.ends_bind_cases h with ⟨first, rest, a, rfl, hfirst, -⟩ | ⟨e, rfl, he⟩ |
    ⟨p, rfl, hp⟩
  · obtain ⟨-, e, hvalue, -⟩ := ht _ _ hfirst
    cases hvalue
  · obtain ⟨hcalls, e, hx, hbad⟩ := ht _ _ he
    cases hx
    exact ⟨hcalls, e, rfl, hbad⟩
  · obtain ⟨-, e, hpanic, -⟩ := ht _ _ hp
    cases hpanic

/-- Before it, a variable may be read. -/
theorem after_variableText {f : String → Task E RunError α}
    (hf : ∀ text, Rejects bad none (f text)) (key : String) :
    Rejects bad (some key) (variableText key >>= f) := by
  intro steps x h
  obtain ⟨store, rest, rfl, hrest⟩ := Program.leads_ask_done_iff.mp h
  simp only [Task.ended, Program.bind] at hrest
  cases htext : store.text? key with
  | some text =>
      rw [htext] at hrest
      obtain ⟨hcalls, e, hx, hbad⟩ := hf text rest x hrest
      have hinvalid : e = .invalidParameter bad := by simpa using hbad
      exact ⟨List.forall_mem_cons.mpr ⟨by simp, hcalls⟩, e, hx, .inl hinvalid⟩
  | none =>
      rw [htext] at hrest
      obtain ⟨rfl, rfl⟩ := Task.ends_ended_iff.mp hrest
      exact ⟨by simp, _, rfl, .inr ⟨key, rfl, rfl⟩⟩

end Rejects

/-! ## What is made of the parameters -/

/-- What is made of a parameter of which this is wrong, if anything is. -/
def MadeOf (wrong : Option BadParameter) (x : Except RunError α) : Prop :=
  match wrong with
  | some bad => x = .error (.invalidParameter bad)
  | none => ∃ a, x = .ok a

theorem madeOf_locator (kind target : String) :
    MadeOf (BadParameter.ofKind? kind) (locator kind target) := by
  unfold BadParameter.ofKind? locator
  cases By.ofName? kind with
  | none => rfl
  | some _ => exact ⟨_, rfl⟩

theorem madeOf_keyCodes (names : String) :
    MadeOf (BadParameter.ofKeys? names) (keyCodes names) := by
  unfold BadParameter.ofKeys? keyCodes
  cases Keys.ofList names with
  | error name => rfl
  | ok codes => exact ⟨codes, rfl⟩

theorem madeOf_dimension (text : String) :
    MadeOf (BadParameter.ofDimension? text) (dimension text) := by
  unfold BadParameter.ofDimension? dimension
  cases Number.unsigned? (Nat.pow 2 32) text with
  | none => rfl
  | some n => exact ⟨n, rfl⟩

theorem madeOf_pause (text : String) : MadeOf (BadParameter.ofDelay? text) (pause text) := by
  unfold BadParameter.ofDelay? pause
  rcases Number.double? text with _ | ms | _ | _
  · rfl
  · by_cases hsign : ms.negative = true ∧ ms.mantissa ≠ 0 <;>
      simp [MadeOf, hsign, Number.Binary64.isZero]
  · rfl
  · rfl

/-! ## Instructions that reject a parameter -/

theorem rejects_orStop {x : Except RunError α} (hx : MadeOf (some bad) x)
    (f : α → Task E RunError β) : Rejects bad key? (orStop x >>= f) := by
  rw [show x = .error (.invalidParameter bad) from hx]
  exact Rejects.fail.bind f

/-- Of two parameters, the second one is looked at if the first one can be used. -/
theorem rejects_orStop_or {x : Except RunError α} {f : α → Task E RunError β}
    {first second : Option BadParameter} (h : first.or second = some bad) (hx : MadeOf first x)
    (hf : second = some bad → ∀ a, Rejects bad key? (f a)) : Rejects bad key? (orStop x >>= f) := by
  cases first with
  | some b =>
      cases h
      exact rejects_orStop hx f
  | none =>
      obtain ⟨a, rfl⟩ := hx
      exact hf h a

section Kind

variable {kind : String} (h : BadParameter.ofKind? kind = some bad) (target : String)
include h

theorem rejects_locator (f : Locator → Task E RunError α) :
    Rejects bad key? (orStop (locator kind target) >>= f) :=
  rejects_orStop (h ▸ madeOf_locator kind target) f

theorem rejects_awaitElement :
    Rejects bad key? (awaitElement wait kind target : Task E RunError E) :=
  rejects_locator h target _

theorem rejects_awaitClick :
    Rejects bad key? (awaitClick wait kind target : Task E RunError E) :=
  (rejects_awaitElement h target).bind _

theorem rejects_clearElement :
    Rejects bad key? (clearElement wait kind target : Task E RunError Unit) :=
  (rejects_awaitElement h target).bind _

theorem rejects_typeInto (text : String) :
    Rejects bad key? (typeInto wait kind target text : Task E RunError Unit) :=
  (rejects_awaitClick h target).bind _

end Kind

/-- An instruction with a malformed parameter fails because of it. -/
theorem rejects_execute (wait : WaitPolicy) (chain : Option (Chain E)) {i : Instruction}
    (h : i.malformed? = some bad) : Rejects bad i.typedVariable? (execute wait chain i) := by
  cases i with
  | gestureMove kind target | selectByText kind target _ | selectByValue kind target _
  | storeAttribute kind target _ _ | storeText kind target _ | verifyText kind target _ =>
      exact (rejects_awaitElement h target).bind _
  | clear kind target | clearType kind target text => exact (rejects_clearElement h target).bind _
  | click kind target => exact (rejects_awaitClick h target).bind _
  | clickAll kind target => exact rejects_locator h target _
  | findFrame kind target =>
      have hsearch : Rejects bad none (enterFrameOf wait kind target : Task E RunError Unit) :=
        rejects_locator h target _
      exact hsearch.bind _
  | typeText kind target text => exact (rejects_typeInto h target text).bind _
  | typeVariable kind target key =>
      -- the variable is read before the locator is made
      exact .after_variableText (fun text => (rejects_typeInto h target text).bind _) key
  | gestureKeys names =>
      have hcodes : MadeOf (some bad) (keyCodes names) := h ▸ madeOf_keyCodes names
      exact rejects_orStop hcodes _
  | keys kind target names =>
      refine rejects_orStop_or h (madeOf_keyCodes names) fun hkind codes => ?_
      exact (rejects_typeInto hkind target codes).bind _
  | setWindowSize width height =>
      refine rejects_orStop_or h (madeOf_dimension width) fun hheight _ => ?_
      exact rejects_orStop (hheight ▸ madeOf_dimension height) _
  | delay text =>
      have hms : MadeOf (some bad) (pause text) := h ▸ madeOf_pause text
      have hpause : Rejects bad none (pauseFor text : Task E RunError Unit) := rejects_orStop hms _
      exact hpause.bind _
  | _ => cases h

end PageRun

end BrowserSuite
