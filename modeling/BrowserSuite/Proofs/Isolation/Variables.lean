import BrowserSuite.Proofs.Page.Parts

/-!
# Which variables suites share

A worker's store carries over from one suite to the next one it takes, so a suite may find
variables there that another suite has written.  `writes?` and `reads?` are the variable
that an action writes and the one that it reads, and `Confined` says of a list of suites
that what a suite reads is never left over from another one: the suite has written it
itself by then, or no suite of the run writes it at all.

Stores are compared off a set of variables.  While a confined suite runs, these are the
`Unsettled` ones: those that some suite writes and that this one has not written yet.
-/

namespace BrowserSuite

/-! ## Stores that agree -/

namespace Store

/-- Two stores agree on all variables that are not in `D`. -/
def AgreeOff (D : String → Prop) (s t : Store) : Prop := ∀ key, ¬D key → s.get? key = t.get? key

variable {D D' : String → Prop} {s t u : Store}

theorem AgreeOff.refl (s : Store) : AgreeOff D s s := fun _ _ => rfl

theorem AgreeOff.trans (h : AgreeOff D s t) (h' : AgreeOff D t u) : AgreeOff D s u :=
  fun key hkey => (h key hkey).trans (h' key hkey)

theorem AgreeOff.mono (h : AgreeOff D s t) (hD : ∀ key, D key → D' key) : AgreeOff D' s t :=
  fun key hkey => h key fun hold => hkey (hD key hold)

/-- A variable that is set in both stores is one more on which they agree. -/
theorem AgreeOff.set (h : AgreeOff D s t) (key : String) (value : Json.Value) :
    AgreeOff (fun k => D k ∧ k ≠ key) (s.set key value) (t.set key value) := by
  intro k hk
  by_cases heq : k = key
  · rw [heq, get?_set_self, get?_set_self]
  · rw [get?_set_of_ne _ _ heq, get?_set_of_ne _ _ heq]
    exact h k fun hD => hk ⟨hD, heq⟩

/-- Setting a variable leaves the others as they are. -/
theorem agreeOff_set (s : Store) {key : String} (value : Json.Value) (hkey : D key) :
    AgreeOff D (s.set key value) s := by
  intro k hk
  have hne : k ≠ key := by
    rintro rfl
    exact hk hkey
  exact get?_set_of_ne s value hne

theorem AgreeOff.text?_eq (h : AgreeOff D s t) {key : String} (hkey : ¬D key) :
    s.text? key = t.text? key := by
  rw [text?, text?, h key hkey]

theorem AgreeOff.flag_eq (h : AgreeOff D s t) {key : String} (hkey : ¬D key) :
    s.flag key = t.flag key := by
  rw [flag, flag, h key hkey]

end Store

/-! ## What actions read and write -/

namespace Instruction

/-- The variable that an instruction writes. -/
def writes? : Instruction → Option String
  | setVariable key _ | randomSsn key | storeAttribute _ _ _ key | storeText _ _ key => some key
  | baseUrl _ => some "base"
  | _ => none

/-- The variable that an instruction reads. -/
def reads? : Instruction → Option String
  | logVariable key | typeVariable _ _ key => some key
  | baseUrl url => if Text.contains url tierPlaceholder then some "tier" else none
  | openPage _ => some "base"
  | _ => none

/-- The instructions that work on the store, the log and the clock only. -/
inductive Confined : Instruction → Prop
  | setVariable (key value : String) : Confined (setVariable key value)
  | log (message : String) : Confined (log message)
  | logVariable (key : String) : Confined (logVariable key)
  | baseUrl (url : String) : Confined (baseUrl url)
  | delay (ms : String) : Confined (delay ms)

end Instruction

/-- The commands of these instructions. -/
def Command.isConfined : Command → Bool
  | setVariable | log | logVariable | baseUrl | delay => true
  | _ => false

theorem Instruction.confined_of_ofParams? {c : Command} {params : List String} {i : Instruction}
    (hc : c.isConfined = true) (h : ofParams? c params = some i) : i.Confined := by
  unfold ofParams? at h
  split at h <;> cases h <;> cases hc <;> constructor

namespace Action

/-- The variable that an action writes.  An action that is wrong writes nothing. -/
def writes? (a : Action) : Option String :=
  match a.instruction with
  | .ok i => i.writes?
  | .error _ => none

/-- The variable that an action reads. -/
def reads? (a : Action) : Option String :=
  match a.instruction with
  | .ok i => i.reads?
  | .error _ => none

/-- Whether an action names one of these commands.  Its parameters may be too few. -/
def isConfined (a : Action) : Bool := a.command?.any Command.isConfined

theorem confined_of_instruction {a : Action} {i : Instruction} (ha : a.isConfined = true)
    (h : a.instruction = .ok i) : i.Confined := by
  unfold instruction at h
  unfold isConfined at ha
  split at h
  · cases h
  · next c hc =>
      rw [hc] at ha
      split at h
      · next hparams =>
          cases h
          exact Instruction.confined_of_ofParams? ha hparams
      · cases h

end Action

/-! ## Confined suites -/

/-- The actions of a suite, page after page. -/
def Suite.actions (s : Suite) : List Action := s.pages.flatMap Page.actions

/-- Some suite writes the variable. -/
def WrittenBy (suites : List Suite) (key : String) : Prop :=
  ∃ s ∈ suites, ∃ a ∈ s.actions, a.writes? = some key

/-- The suites work on the store, the log and the clock only, and a variable that one of
them reads has been written by an earlier action of that suite or is written by no suite.
Every suite with a page reads `debug` before its first action. -/
structure Confined (suites : List Suite) : Prop where
  commands : ∀ s ∈ suites, ∀ a ∈ s.actions, a.isConfined = true
  reads : ∀ s ∈ suites, ∀ before a after, s.actions = before ++ a :: after →
    ∀ key, a.reads? = some key →
      (∃ b ∈ before, b.writes? = some key) ∨ ¬WrittenBy suites key
  debug : ¬WrittenBy suites "debug"

instance (suites : List Suite) (key : String) : Decidable (WrittenBy suites key) :=
  inferInstanceAs (Decidable (∃ s ∈ suites, ∃ a ∈ s.actions, a.writes? = some key))

/-- Whether suites are confined can be checked action by action. -/
theorem confined_iff {suites : List Suite} :
    Confined suites ↔
      (∀ s ∈ suites, ∀ a ∈ s.actions, a.isConfined = true) ∧
      (∀ s ∈ suites, ∀ p ∈ s.actions.zipIdx, ∀ key ∈ p.1.reads?,
        (∃ b ∈ s.actions.take p.2, b.writes? = some key) ∨ ¬WrittenBy suites key) ∧
      ¬WrittenBy suites "debug" := by
  constructor
  · intro h
    refine ⟨h.commands, fun s hs p hp key hkey => ?_, h.debug⟩
    have hat : s.actions[p.2]? = some p.1 := List.mem_zipIdx_iff_getElem?.mp hp
    obtain ⟨hlt, hget⟩ := List.getElem?_eq_some_iff.mp hat
    refine h.reads s hs _ p.1 (s.actions.drop (p.2 + 1)) ?_ key hkey
    rw [← hget, ← List.drop_eq_getElem_cons hlt, List.take_append_drop]
  · rintro ⟨hcommands, hreads, hdebug⟩
    refine ⟨hcommands, fun s hs before a after hsplit key hkey => ?_, hdebug⟩
    have hp : (a, before.length) ∈ s.actions.zipIdx := by
      rw [List.mem_zipIdx_iff_getElem?]
      simp [hsplit]
    simpa [hsplit] using hreads s hs _ hp key hkey

instance (suites : List Suite) : Decidable (Confined suites) :=
  decidable_of_iff _ confined_iff.symm

/-- A variable that some suite writes and that these actions do not. -/
def Unsettled (suites : List Suite) (done : List Action) (key : String) : Prop :=
  WrittenBy suites key ∧ ∀ b ∈ done, b.writes? ≠ some key

variable {suites : List Suite} {done : List Action} {key : String}

theorem unsettled_nil_iff : Unsettled suites [] key ↔ WrittenBy suites key := by
  simp [Unsettled]

theorem unsettled_snoc_iff {a : Action} :
    Unsettled suites (done ++ [a]) key ↔ Unsettled suites done key ∧ a.writes? ≠ some key := by
  simp [Unsettled, or_imp, forall_and, and_assoc]

/-- A confined suite reads nothing that is unsettled when it does. -/
theorem Confined.settled (h : Confined suites) {s : Suite} (hs : s ∈ suites) {a : Action}
    {after : List Action} (hsplit : s.actions = done ++ a :: after)
    (hreads : a.reads? = some key) : ¬Unsettled suites done key := by
  rintro ⟨hwritten, hfresh⟩
  rcases h.reads s hs done a after hsplit key hreads with ⟨b, hb, hwrites⟩ | hnever
  · exact hfresh b hb hwrites
  · exact hnever hwritten

theorem Confined.debug_settled (h : Confined suites) : ¬Unsettled suites done "debug" :=
  fun hdebug => h.debug hdebug.1

end BrowserSuite
