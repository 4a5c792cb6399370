import BrowserSuite.Proofs.Retry.Injection

/-!
# What a page sees of the browser

The `scene` of a browser leaves out its rules, the counts of its calls and how often
its elements have been looked up.  If no element has to be looked up several times
before it appears, a call that no rule disturbs does the same on a browser and on its
scene (`steady_perform`), and a polled call that fails leaves the scene as it was
(`scene_perform_of_failed`), so that it may be made any number of times.
-/

namespace BrowserSuite.Scripted

/-- An element that has not been looked up. -/
def Element.fresh (e : Element) : Element := { e with lookups := 0 }

/-- What a page sees of a browser. -/
def scene (b : Scripted) : Scripted :=
  { b with rules := [], counts := [], elements := b.elements.map Element.fresh }

/-- All elements appear when they are first looked up. -/
def Prompt (b : Scripted) : Prop := ∀ e ∈ b.elements, e.appearAfter = 0

instance (b : Scripted) : Decidable b.Prompt :=
  inferInstanceAs (Decidable (∀ e ∈ b.elements, e.appearAfter = 0))

/-- The calls that pages repeat while they fail with a transient error. -/
def isPolled : Call Handle → Bool
  | .find _ | .click _ | .selectByText _ _ | .selectByValue _ _ | .switchToFrame _ => true
  | _ => false

theorem opOf_mem_polledOps {c : Call Handle} : opOf c ∈ polledOps ↔ isPolled c = true := by
  cases c <;> simp [opOf, polledOps, isPolled]

variable {α : Type} {b : Scripted} {key : String}

/-- Two ways in which a call may go, on a browser and on its scene, are the same to a
page, and the browser keeps its rules and its elements stay prompt. -/
structure Steady (b : Scripted) (p q : Ending BrowserError α × Scripted) : Prop where
  reply : q.1 = p.1
  scene : q.2.scene = p.2.scene
  rules : p.2.rules = b.rules
  prompt : p.2.Prompt

/-! ## Elements -/

theorem element?_scene (b : Scripted) (key : String) :
    b.scene.element? key = (b.element? key).map Element.fresh := by
  unfold element? scene
  rw [List.find?_map]
  rfl

theorem Prompt.appearAfter (hb : b.Prompt) {e : Element} (he : b.element? key = some e) :
    e.appearAfter = 0 :=
  hb e (List.mem_of_find?_eq_some he)

@[simp] theorem scene_scene (b : Scripted) : b.scene.scene = b.scene := by
  have helements : (b.elements.map Element.fresh).map Element.fresh =
      b.elements.map Element.fresh := by
    rw [List.map_map]
    rfl
  unfold Scripted.scene
  rw [helements]

theorem Prompt.scene (hb : b.Prompt) : b.scene.Prompt := by
  intro e he
  obtain ⟨old, hold, rfl⟩ := List.mem_map.mp he
  exact hb old hold

/-! ## Looking up -/

/-- Counting a look-up changes nothing that a page sees. -/
theorem scene_countLookUp (b : Scripted) (key : String) : (b.countLookUp key).scene = b.scene := by
  have helements : (b.countLookUp key).elements.map Element.fresh =
      b.elements.map Element.fresh := by
    unfold countLookUp
    rw [List.map_map]
    refine List.map_congr_left fun e _ => ?_
    simp only [Function.comp_apply]
    split <;> rfl
  unfold Scripted.scene
  rw [helements]
  rfl

theorem Prompt.countLookUp (hb : b.Prompt) (key : String) : (b.countLookUp key).Prompt := by
  intro e he
  obtain ⟨old, hold, rfl⟩ := List.mem_map.mp he
  split <;> exact hb old hold

/-- On a browser with prompt elements a look-up does not depend on those before. -/
theorem Prompt.lookUp_eq (hb : b.Prompt) (key : String) :
    b.lookUp key =
      match b.element? key with
      | none => (.error (.noSuchElement key), b)
      | some e =>
        (if e.sessionLost then .error (.session "browser crashed")
          else if e.node ≠ b.currentFrame then .error (.noSuchElement key)
          else .ok ⟨key, b.currentFrame⟩, b.countLookUp key) := by
  unfold lookUp
  cases he : b.element? key with
  | none => rfl
  | some e =>
      simp only [hb.appearAfter he, Nat.not_lt_zero, or_false]
      split
      · rfl
      · change (if e.node ≠ b.currentFrame then _ else _) = _
        split <;> rfl

theorem scene_lookUp (hb : b.Prompt) (key : String) : (b.lookUp key).2.scene = b.scene := by
  rw [hb.lookUp_eq]
  split
  · rfl
  · exact scene_countLookUp b key

theorem Prompt.lookUp (hb : b.Prompt) (key : String) : (b.lookUp key).2.Prompt := by
  rw [hb.lookUp_eq]
  split
  · exact hb
  · exact hb.countLookUp key

theorem rules_lookUp (hb : b.Prompt) (key : String) : (b.lookUp key).2.rules = b.rules := by
  rw [hb.lookUp_eq]
  split <;> rfl

/-- What a look-up gives depends on the scene alone. -/
theorem lookUp_scene (hb : b.Prompt) (key : String) :
    (b.scene.lookUp key).1 = (b.lookUp key).1 := by
  rw [hb.lookUp_eq, hb.scene.lookUp_eq, element?_scene]
  cases b.element? key <;> rfl

/-! ## Calls -/

/-- A call that changes something other than rules and elements. -/
theorem steady_update (hb : b.Prompt) (reply : Ending BrowserError α) {f : Scripted → Scripted}
    (hscene : ∀ d : Scripted, (f d).scene = f d.scene) (hrules : (f b).rules = b.rules)
    (helements : (f b).elements = b.elements) : Steady b (reply, f b) (reply, f b.scene) where
  reply := rfl
  scene := by rw [hscene, hscene, scene_scene]
  rules := hrules
  prompt e he := hb e (helements ▸ he)

/-- A call that is written down and changes nothing else. -/
theorem steady_record (hb : b.Prompt) (reply : Ending BrowserError α) (call : String) :
    Steady b (reply, b.record call) (reply, b.scene.record call) :=
  steady_update hb reply (f := (·.record call)) (fun _ => rfl) rfl rfl

/-- A call that changes nothing. -/
theorem steady_same (hb : b.Prompt) (reply : Ending BrowserError α) :
    Steady b (reply, b) (reply, b.scene) :=
  steady_update hb reply (f := id) (fun _ => rfl) rfl rfl

/-- A call on an element. -/
theorem steady_withElement (hb : b.Prompt) (h : Handle)
    {f g : Element → Ending BrowserError α × Scripted} (hfg : ∀ e, Steady b (f e) (g e.fresh)) :
    Steady b (b.withElement h f) (b.scene.withElement h g) := by
  unfold withElement
  rw [element?_scene]
  cases b.element? h.key with
  | none => exact steady_same hb _
  | some e => exact hfg e

/-- A call that looks an element up. -/
theorem steady_lookUp (hb : b.Prompt) (key : String)
    (f : Except BrowserError Handle → Ending BrowserError α) :
    Steady b (f (b.lookUp key).1, (b.lookUp key).2)
      (f (b.scene.lookUp key).1, (b.scene.lookUp key).2) where
  reply := congrArg f (lookUp_scene hb key)
  scene := by rw [scene_lookUp hb, scene_lookUp hb.scene, scene_scene]
  rules := rules_lookUp hb key
  prompt := hb.lookUp key

/-- What a search for one element makes of a look-up. -/
def found : Except BrowserError Handle → Ending BrowserError Handle
  | .ok h => .value h
  | .error e => .failed e

theorem perform_find (b : Scripted) (l : Locator) :
    b.perform (.find l) = (found (b.lookUp l.text).1, (b.lookUp l.text).2) := by
  simp only [perform]
  rcases b.lookUp l.text with ⟨_ | _, _⟩ <;> rfl

/-- What a search for all elements makes of a look-up. -/
def foundAll : Except BrowserError Handle → Ending BrowserError (List Handle)
  | .ok h => .value [h]
  | .error (.noSuchElement _) => .value []
  | .error e => .failed e

theorem perform_findAll (b : Scripted) (l : Locator) :
    b.perform (.findAll l) =
      match b.matching.lookup l.text with
      | some keys => (.value (keys.map fun key => ⟨key, b.currentFrame⟩), b)
      | none => (foundAll (b.lookUp l.text).1, (b.lookUp l.text).2) := by
  simp only [perform]
  cases b.matching.lookup l.text with
  | some keys => rfl
  | none =>
      rcases b.lookUp l.text with ⟨e | h, _⟩
      · cases e <;> rfl
      · rfl

/-- A call that no rule disturbs does the same on a browser and on its scene. -/
theorem steady_perform (hb : b.Prompt) (c : Call Handle) :
    Steady b (b.perform c) (b.scene.perform c) := by
  cases c with
  | find l =>
      rw [perform_find, perform_find]
      exact steady_lookUp hb l.text found
  | findAll l =>
      rw [perform_findAll, perform_findAll]
      change Steady b _ (match b.matching.lookup l.text with | some keys => _ | none => _)
      cases b.matching.lookup l.text with
      | some keys => exact steady_same hb _
      | none => exact steady_lookUp hb l.text foundAll
  | click h | clear h | sendKeys h text =>
      exact steady_withElement hb h fun e => steady_record hb _ _
  | readText h | readAttribute h name =>
      exact steady_withElement hb h fun e => steady_same hb _
  | selectByText h label =>
      refine steady_withElement hb h fun e => ?_
      change Steady b _ (if e.options.any _ then _ else _)
      split
      · exact steady_record hb _ _
      · exact steady_same hb _
  | selectByValue h value =>
      refine steady_withElement hb h fun e => ?_
      change Steady b _ (if e.options.any _ then _ else _)
      split
      · exact steady_record hb _ _
      · exact steady_same hb _
  | frames => exact steady_same hb _
  | switchToFrame target =>
      have htarget : b.scene.targetFrame? target = b.targetFrame? target := rfl
      simp only [perform, htarget]
      cases b.targetFrame? target with
      | some id =>
          exact steady_update hb _ (f := fun d =>
            { d with context := id :: d.context }.record s!"switch {d.frameName id}")
            (fun _ => rfl) rfl rfl
      | none => exact steady_same hb _
  | switchToDefault =>
      exact steady_update hb _ (f := fun d => { d with context := [] }.record "switch default")
        (fun _ => rfl) rfl rfl
  | navigate _ | setWindowSize _ _ | performGestures _ => exact steady_record hb _ _
  | quit =>
      have hquits : ∀ reply : Ending BrowserError Unit, Steady b
          (reply, { b with quits := b.quits + 1 })
          (reply, { b.scene with quits := b.scene.quits + 1 }) := fun reply =>
        steady_update hb reply (f := fun d => { d with quits := d.quits + 1 })
          (fun _ => rfl) rfl rfl
      have hpanics : b.scene.panicsOnQuit = b.panicsOnQuit := rfl
      simp only [perform, hpanics]
      split
      · exact hquits _
      · exact hquits _

/-- A call on an element that fails changes nothing, if it changes nothing where the
element is there. -/
theorem scene_withElement_of_failed {h : Handle} {f : Element → Ending BrowserError α × Scripted}
    {e : BrowserError} (hf : ∀ element, (f element).1 = .failed e → (f element).2 = b)
    (hfailed : (b.withElement h f).1 = .failed e) : (b.withElement h f).2 = b := by
  unfold withElement at *
  split at hfailed
  · exact hf _ hfailed
  · rfl

/-- A polled call that fails leaves what a page sees as it was. -/
theorem scene_perform_of_failed (hb : b.Prompt) {c : Call Handle} {e : BrowserError}
    (hc : isPolled c = true) (hfailed : (b.perform c).1 = .failed e) :
    (b.perform c).2.scene = b.scene := by
  -- a look-up never changes the scene, and the other calls write only where they succeed
  cases c with
  | find l =>
      rw [perform_find]
      exact scene_lookUp hb l.text
  | click h =>
      exact congrArg scene (scene_withElement_of_failed (fun _ h => nomatch h) hfailed)
  | selectByText h label | selectByValue h value =>
      refine congrArg scene (scene_withElement_of_failed (fun element hfailed => ?_) hfailed)
      split at hfailed
      · cases hfailed
      · rename_i hnone
        rw [if_neg hnone]
  | switchToFrame target =>
      simp only [perform] at hfailed ⊢
      cases htarget : b.targetFrame? target with
      | some id => simp [htarget] at hfailed
      | none => rfl
  | _ => cases hc

end BrowserSuite.Scripted
