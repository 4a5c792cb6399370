import BrowserSuite.Engine.FrameSearch
import BrowserSuite.Proofs.Browser.Panics
import BrowserSuite.Proofs.Frames.Nesting
import BrowserSuite.Proofs.Retry.Scene

/-!
# Sessions among frames

A session sees one frame at a time, and a look-up in the wrong frame fails like one in a
frame without the element.  So where the session is has to be known at every call.

`Searching` says where it is, together with everything else that a search goes by: the pages
are as they were, the script still bars the same frames, and the element has been looked up
so many times.  `Explores` says of a task where it looks, how it ends and what it leaves;
its law for composed tasks, `Explores.bind`, carries `Searching` from one call to the next.
-/

namespace BrowserSuite

namespace Scripted

/-! ## Scripts that bar frames -/

/-- The rules that are left after some calls. -/
def rulesAfter (rules : List Rule) : List (String × String) → List Rule
  | [] => rules
  | (op, key) :: calls => rulesAfter (takeRule op key rules).2 calls

/-- The handle of a frame. -/
def frameHandle (b : Scripted) (k : Nat) : Handle := ⟨"frame:" ++ b.frameName k, k⟩

/-- A switch into a frame with a barred name. -/
def IsBarred (barred : String → Bool) (op key : String) : Prop :=
  op = "switch" ∧ ∃ name, key = "frame:" ++ name ∧ barred name = true

/-- Whatever calls came before, a switch into a frame with a barred name fails with a
transient error, and the rules let every other call pass. -/
structure Bars (barred : String → Bool) (rules : List Rule) : Prop where
  fails : ∀ calls op key, IsBarred barred op key →
    ∃ r ∈ (takeRule op key (rulesAfter rules calls)).1,
      r.panic = none ∧ ∃ err ∈ r.error, err.isTransient = true
  passes : ∀ calls op key, ¬ IsBarred barred op key →
    ∀ r ∈ (takeRule op key (rulesAfter rules calls)).1, r.panic = none ∧ r.error = none

variable {b₀ b : Scripted} {barred : String → Bool} {rules : List Rule} {l : Locator}
  {e : Element} {path : List Nat} {k n : Nat}

theorem Bars.take (h : Bars barred rules) (op key : String) :
    Bars barred (takeRule op key rules).2 :=
  ⟨fun calls => h.fails ((op, key) :: calls), fun calls => h.passes ((op, key) :: calls)⟩

theorem isBarred_frameHandle_iff :
    IsBarred barred "switch" (b.frameHandle k).key ↔ barred (b.frameName k) = true := by
  constructor
  · rintro ⟨-, name, hname, hbarred⟩
    have hsame : b.frameName k = name := by simpa [frameHandle] using hname
    exact hsame ▸ hbarred
  · intro hbarred
    exact ⟨rfl, _, rfl, hbarred⟩

/-- A rule that fails every switch into a frame of some name. -/
def barringRule (err : BrowserError) (name : String) : Rule :=
  ⟨"switch", some ("frame:" ++ name), 0, none, 0, false, none, some err⟩

/-- Rules without bounds are not used up. -/
theorem takeRule_of_unbounded {op key : String} (h : ∀ r ∈ rules, r.skip = 0 ∧ r.times = none) :
    takeRule op key rules = (rules.find? (·.concerns op key), rules) := by
  induction rules with
  | nil => rfl
  | cons r rest ih =>
      obtain ⟨⟨hskip, htimes⟩, hrest⟩ := List.forall_mem_cons.mp h
      unfold takeRule
      by_cases hconcerns : r.concerns op key = true
      · have hkept : { r with times := r.times.map (· - 1) } = r := by
          rw [htimes, Option.map_none, ← htimes]
        rw [if_pos hconcerns, if_neg (by omega), hkept]
        simp only [List.find?_cons, hconcerns]
      · simp [hconcerns, ih hrest]

/-- Any names can be barred. -/
theorem bars_barringRules {err : BrowserError} (herr : err.isTransient = true)
    (names : List String) : Bars names.contains (names.map (barringRule err)) := by
  have hunbounded : ∀ r ∈ names.map (barringRule err), r.skip = 0 ∧ r.times = none := by
    intro r hr
    obtain ⟨name, -, rfl⟩ := List.mem_map.mp hr
    exact ⟨rfl, rfl⟩
  have htake : ∀ op key, takeRule op key (names.map (barringRule err)) =
      ((names.map (barringRule err)).find? (·.concerns op key), names.map (barringRule err)) :=
    fun op key => takeRule_of_unbounded hunbounded
  -- no rule is used up, so it does not matter which calls came before
  have hafter : ∀ calls, rulesAfter (names.map (barringRule err)) calls =
      names.map (barringRule err) := by
    intro calls
    induction calls with
    | nil => rfl
    | cons call calls ih => rw [rulesAfter, htake, ih]
  have hconcerns : ∀ name op key, (barringRule err name).concerns op key = true ↔
      op = "switch" ∧ key = "frame:" ++ name := by
    intro name op key
    simpa [barringRule, Rule.concerns] using and_congr (eq_comm (a := "switch")) eq_comm
  refine ⟨?_, ?_⟩
  · rintro calls op key ⟨rfl, name, rfl, hname⟩
    have hmem : barringRule err name ∈ names.map (barringRule err) :=
      List.mem_map_of_mem (by simpa using hname)
    rw [hafter, htake]
    cases hfind : (names.map (barringRule err)).find? (·.concerns "switch" ("frame:" ++ name)) with
    | none =>
        refine absurd ((hconcerns name _ _).mpr ⟨rfl, rfl⟩) ?_
        exact List.find?_eq_none.mp hfind _ hmem
    | some r =>
        obtain ⟨other, -, rfl⟩ := List.mem_map.mp (List.mem_of_find?_eq_some hfind)
        exact ⟨_, rfl, rfl, err, rfl, herr⟩
  · intro calls op key hpasses r hr
    rw [hafter, htake] at hr
    have hfound := List.find?_some (Option.mem_def.mp hr)
    obtain ⟨name, hname, rfl⟩ := List.mem_map.mp (List.mem_of_find?_eq_some hr)
    obtain ⟨hop, hkey⟩ := (hconcerns name op key).mp hfound
    exact absurd ⟨hop, name, hkey, by simpa using hname⟩ hpasses

/-- A call that is not barred is carried out. -/
theorem Bars.endCall_of_not_isBarred {α : Type} {op key : String} (h : Bars barred b.rules)
    (hpasses : ¬ IsBarred barred op key) (b' : Scripted)
    (proceed : Scripted → Ending BrowserError α × Scripted) :
    endCall (b.startCall op key).1 b' proceed = proceed b' := by
  have hrule : ∀ r ∈ (b.startCall op key).1, r.panic = none ∧ r.error = none :=
    h.passes [] op key hpasses
  cases hfound : (b.startCall op key).1 with
  | none => rfl
  | some r =>
      obtain ⟨hpanic, herror⟩ := hrule r hfound
      simp only [endCall, hpanic, herror]

/-- A call that is barred fails and has no effect. -/
theorem Bars.endCall_of_isBarred {α : Type} {op key : String} (h : Bars barred b.rules)
    (hbarred : IsBarred barred op key) (b' : Scripted)
    (proceed : Scripted → Ending BrowserError α × Scripted) :
    ∃ err, err.isTransient = true ∧
      endCall (b.startCall op key).1 b' proceed = (.failed err, b') := by
  obtain ⟨r, hr, hpanic, err, herror, htransient⟩ := h.fails [] op key hbarred
  have hrule : (b.startCall op key).1 = some r := hr
  refine ⟨err, htransient, ?_⟩
  rw [hrule]
  simp only [endCall, hpanic, Option.mem_def.mp herror]

/-- Counting a look-up is seen on the element that was looked up. -/
theorem element?_countLookUp (b : Scripted) (key : String) :
    (b.countLookUp key).element? key =
      (b.element? key).map fun e => { e with lookups := e.lookups + 1 } := by
  unfold element? countLookUp
  have hkey : ((fun e : Element => e.key == key) ∘ fun e =>
      if e.key == key then { e with lookups := e.lookups + 1 } else e) = fun e => e.key == key := by
    funext e
    rw [Function.comp_apply]
    split <;> rfl
  rw [List.find?_map, hkey]
  refine Option.map_congr fun e he => ?_
  rw [if_pos (List.find?_some he)]

/-! ## Where the session is -/

/-- The browser while an element is searched for: its frames are those of `b₀`, its script
bars the same names, the element has been looked up `n` times and the session is at `path`. -/
structure Searching (b₀ : Scripted) (barred : String → Bool) (e : Element) (n : Nat)
    (path : List Nat) (b : Scripted) : Prop where
  frames : b.frames = b₀.frames
  bars : Bars barred b.rules
  element : b.element? e.key = some { e with lookups := n }
  context : b.context = path.reverse

namespace Searching

theorem currentFrame (h : Searching b₀ barred e n path b) : b.currentFrame = endOf path :=
  currentFrame_of_context h.context

theorem frameName (h : Searching b₀ barred e n path b) (k : Nat) :
    b.frameName k = b₀.frameName k := by
  unfold Scripted.frameName
  rw [h.frames]

theorem childrenOf (h : Searching b₀ barred e n path b) (k : Nat) :
    b.childrenOf k = b₀.childrenOf k := by
  unfold Scripted.childrenOf
  rw [h.frames]

/-- To count a call and to use its rule up changes nothing that the search goes by. -/
theorem start (h : Searching b₀ barred e n path b) (op key : String) :
    Searching b₀ barred e n path (b.startCall op key).2 :=
  ⟨h.frames, h.bars.take op key, h.element, h.context⟩

theorem perform_switchToDefault (h : Searching b₀ barred e n path b) :
    (b.perform .switchToDefault).1 = .value () ∧
      Searching b₀ barred e n [] (b.perform .switchToDefault).2 :=
  ⟨rfl, h.frames, h.bars, h.element, rfl⟩

/-- A frame directly inside the current one can be entered by its handle. -/
theorem perform_switchToFrame (h : Searching b₀ barred e n path b) (hnested : b₀.Nested)
    (hk : k ∈ b₀.childrenOf (endOf path)) :
    (b.perform (.switchToFrame (.element (b₀.frameHandle k)))).1 = .value () ∧
      Searching b₀ barred e n (path ++ [k])
        (b.perform (.switchToFrame (.element (b₀.frameHandle k)))).2 := by
  obtain ⟨f, hf, hparent⟩ := Option.bind_eq_some_iff.mp (hnested.parent hk)
  have htarget : b.targetFrame? (.element (b₀.frameHandle k)) = some k := by
    simp only [targetFrame?, frameHandle, h.frames, hf, hparent, h.currentFrame, ↓reduceIte]
  simp only [perform, htarget]
  refine ⟨trivial, h.frames, h.bars, h.element, ?_⟩
  simp [record, h.context]

theorem perform_frames (h : Searching b₀ barred e n path b) :
    b.perform .frames = (.value ((b₀.childrenOf (endOf path)).map b₀.frameHandle), b) := by
  simp only [perform, h.currentFrame, h.childrenOf, h.frameName]
  rfl

/-- The element is found if the session is in its frame and it appears by now. -/
theorem perform_find (h : Searching b₀ barred e n path b) (hkey : e.key = l.text)
    (hlost : e.sessionLost = false) :
    (b.perform (.find l)).1 =
        (if endOf path = e.node ∧ e.appearAfter ≤ n then .value ⟨l.text, e.node⟩
          else .failed (.noSuchElement l.text)) ∧
      Searching b₀ barred e (n + 1) path (b.perform (.find l)).2 := by
  have helement : b.element? l.text = some { e with lookups := n } := hkey ▸ h.element
  have hcounted : Searching b₀ barred e (n + 1) path (b.countLookUp l.text) := by
    refine ⟨h.frames, h.bars, ?_, h.context⟩
    rw [← hkey, element?_countLookUp, h.element]
    rfl
  rw [Scripted.perform_find]
  simp only [lookUp, helement, hlost, hcounted.currentFrame, Bool.false_eq_true, ↓reduceIte]
  by_cases hthere : endOf path = e.node ∧ e.appearAfter ≤ n
  · obtain ⟨hnode, happears⟩ := hthere
    simp only [hnode, happears, Nat.not_lt.mpr happears, ne_eq, not_true_eq_false, or_self,
      and_self, ↓reduceIte]
    exact ⟨rfl, hcounted⟩
  · have hmissing : e.node ≠ endOf path ∨ n < e.appearAfter := by
      rw [not_and_or, Nat.not_le] at hthere
      exact hthere.imp_left Ne.symm
    simp only [hthere, hmissing, ↓reduceIte]
    exact ⟨rfl, hcounted⟩

end Searching

end Scripted

namespace World

variable {ε ε' α β : Type} {w : World} {P Q : Scripted → Prop}

/-! ## Where a task looks -/

/-- Where the session is when an element is looked up. -/
def look? : World × Effect Handle → Option (List Nat)
  | (w, .call (.find _)) => some w.site.browser.context.reverse
  | _ => none

/-- The places in which a task that is run looks elements up. -/
def looks (w : World) (t : Task Handle ε α) : List (List Nat) :=
  (Program.asked answer t w).filterMap look?

/-- A task that is run in `w` looks into the places `seen`, ends in `x`, and leaves a
browser with `P`. -/
structure Explores (w : World) (t : Task Handle ε α) (seen : List (List Nat)) (x : Ending ε α)
    (P : Scripted → Prop) : Prop where
  looks : w.looks t = seen
  ending : (w.run t).1 = x
  left : P (w.run t).2.site.browser

theorem explores_pure (a : α) (hw : P w.site.browser) :
    w.Explores (pure a : Task Handle ε α) [] (.value a) P :=
  ⟨rfl, rfl, hw⟩

theorem looks_bind (w : World) (t : Task Handle ε α) (f : α → Task Handle ε β) :
    w.looks (t >>= f) =
      w.looks t ++
        match (w.run t).1 with
        | .value a => (w.run t).2.looks (f a)
        | _ => [] := by
  refine (congrArg (List.filterMap look?) (Program.asked_bind t _ w)).trans ?_
  rw [List.filterMap_append]
  refine congrArg (w.looks t ++ ·) ?_
  unfold World.run
  cases (Program.run answer t w).1 <;> rfl

theorem Explores.bind {t : Task Handle ε α} {f : α → Task Handle ε β} {seen more : List (List Nat)}
    {a : α} {x : Ending ε β} (h : w.Explores t seen (.value a) P)
    (hf : ∀ v : World, P v.site.browser → v.Explores (f a) more x Q) :
    w.Explores (t >>= f) (seen ++ more) x Q := by
  have hrun : w.run t = (.value a, (w.run t).2) := Prod.ext h.ending rfl
  have hrest := hf _ h.left
  refine ⟨?_, ?_, ?_⟩
  · rw [looks_bind, h.looks, h.ending]
    exact congrArg (seen ++ ·) hrest.looks
  · rw [run_bind_of_value hrun]
    exact hrest.ending
  · rw [run_bind_of_value hrun]
    exact hrest.left

/-- A first part that looks nowhere does not count. -/
theorem Explores.bind_of_nil_left {t : Task Handle ε α} {f : α → Task Handle ε β}
    {seen : List (List Nat)} {a : α} {x : Ending ε β} (h : w.Explores t [] (.value a) P)
    (hf : ∀ v : World, P v.site.browser → v.Explores (f a) seen x Q) :
    w.Explores (t >>= f) seen x Q :=
  h.bind hf

/-- Nor does a second part that looks nowhere. -/
theorem Explores.bind_of_nil_right {t : Task Handle ε α} {f : α → Task Handle ε β}
    {seen : List (List Nat)} {a : α} {x : Ending ε β} (h : w.Explores t seen (.value a) P)
    (hf : ∀ v : World, P v.site.browser → v.Explores (f a) [] x Q) :
    w.Explores (t >>= f) seen x Q :=
  List.append_nil seen ▸ h.bind hf

/-- To handle the failure of a task looks nowhere else. -/
theorem Explores.attempt {t : Task Handle ε α} {seen : List (List Nat)} {x : Ending ε α}
    (h : w.Explores t seen x P) :
    w.Explores (t.attempt : Task Handle ε' (Except ε α)) seen x.attempted P := by
  have hrun : w.run (t.attempt : Task Handle ε' (Except ε α)) =
      (x.attempted, (w.run t).2) := by
    rw [run_attempt, ← h.ending]
    rcases w.run t with ⟨_ | _ | _, v⟩ <;> rfl
  refine ⟨?_, congrArg Prod.fst hrun, hrun ▸ h.left⟩
  refine (congrArg (List.filterMap look?) (Program.asked_bind t _ w)).trans ?_
  rw [List.filterMap_append, ← h.looks]
  refine (congrArg (w.looks t ++ ·) ?_).trans (List.append_nil _)
  cases (Program.run answer t w).1 <;> rfl

/-! ## Calls -/

variable {b₀ : Scripted} {barred : String → Bool} {e : Scripted.Element} {l : Locator}
  {path : List Nat} {k n : Nat}

theorem looks_call (w : World) (c : Call Handle) :
    w.looks (Task.call c) = (look? (w, .call c)).toList := by
  change List.filterMap look? [(w, .call c)] = _
  cases h : look? (w, .call c) <;> simp [h]

/-- A call that the rules let pass does what it does without them. -/
theorem explores_call (hw : Scripted.Searching b₀ barred e n path w.site.browser) {c : Call Handle}
    (hpasses : ¬ Scripted.IsBarred barred (Scripted.opOf c) (Scripted.keyOf c))
    {x : Ending BrowserError c.Reply}
    (hc : ∀ b, Scripted.Searching b₀ barred e n path b → (b.perform c).1 = x ∧ P (b.perform c).2) :
    w.Explores (Task.call c) (look? (w, .call c)).toList x P := by
  obtain ⟨hreply, hbrowser⟩ := answer_call w c
  rw [hw.bars.endCall_of_not_isBarred hpasses] at hreply hbrowser
  obtain ⟨hx, hP⟩ := hc _ (hw.start (Scripted.opOf c) (Scripted.keyOf c))
  exact ⟨looks_call w c, hreply.trans hx, hbrowser ▸ hP⟩

theorem explores_switchToDefault (hw : Scripted.Searching b₀ barred e n path w.site.browser) :
    w.Explores (Task.call .switchToDefault) [] (.value ()) (Scripted.Searching b₀ barred e n []) :=
  explores_call hw (fun h => absurd h.1 (by decide)) fun _ hb => hb.perform_switchToDefault

theorem explores_frames (hw : Scripted.Searching b₀ barred e n path w.site.browser) :
    w.Explores (Task.call .frames) []
      (.value ((b₀.childrenOf (Scripted.endOf path)).map b₀.frameHandle))
      (Scripted.Searching b₀ barred e n path) := by
  refine explores_call hw (fun h => absurd h.1 (by decide)) fun b hb => ?_
  rw [hb.perform_frames]
  exact ⟨rfl, hb⟩

theorem explores_switchToFrame (hw : Scripted.Searching b₀ barred e n path w.site.browser)
    (hnested : b₀.Nested) (hk : b₀.Enters barred (Scripted.endOf path) k) :
    w.Explores (Task.call (.switchToFrame (.element (b₀.frameHandle k)))) [] (.value ())
      (Scripted.Searching b₀ barred e n (path ++ [k])) := by
  refine explores_call hw (fun h => ?_) fun b hb => hb.perform_switchToFrame hnested hk.1
  exact absurd (Scripted.isBarred_frameHandle_iff.mp h) (by simp [hk.2])

/-- A switch into a barred frame leaves the session where it is. -/
theorem explores_switchToFrame_of_barred
    (hw : Scripted.Searching b₀ barred e n path w.site.browser)
    (hk : barred (b₀.frameName k) = true) :
    ∃ err, err.isTransient = true ∧
      w.Explores (Task.call (.switchToFrame (.element (b₀.frameHandle k)))) [] (.failed err)
        (Scripted.Searching b₀ barred e n path) := by
  let c : Call Handle := .switchToFrame (.element (b₀.frameHandle k))
  obtain ⟨hreply, hbrowser⟩ := answer_call w c
  obtain ⟨err, htransient, hfailed⟩ := hw.bars.endCall_of_isBarred
    (Scripted.isBarred_frameHandle_iff.mpr hk) (w.site.browser.startCall "switch" _).2
    (·.perform c)
  have hstarted := hw.start "switch" (b₀.frameHandle k).key
  refine ⟨err, htransient, looks_call w c, ?_, ?_⟩
  · exact hreply.trans (congrArg Prod.fst hfailed)
  · exact (hbrowser.trans (congrArg Prod.snd hfailed)) ▸ hstarted

/-- The element is found if the session is in its frame and it appears by now. -/
theorem explores_find (hw : Scripted.Searching b₀ barred e n path w.site.browser)
    (hkey : e.key = l.text) (hlost : e.sessionLost = false) :
    w.Explores (Task.call (.find l)) [path]
      (if Scripted.endOf path = e.node ∧ e.appearAfter ≤ n then .value ⟨l.text, e.node⟩
        else .failed (.noSuchElement l.text))
      (Scripted.Searching b₀ barred e (n + 1) path) := by
  have hcall := explores_call hw (c := .find l) (fun h => absurd h.1 (by simp [Scripted.opOf]))
    fun b hb => hb.perform_find hkey hlost
  rwa [look?, hw.context, List.reverse_reverse] at hcall

end World

end BrowserSuite
