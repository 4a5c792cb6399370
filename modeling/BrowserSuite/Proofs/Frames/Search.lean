import BrowserSuite.Proofs.Frames.Session

/-!
# Searching frames in document order

The search for an element looks into the frames in the order of the document, into each of
them once, until it comes to the frame of the element (`find_in_document_order`).  Frames
that cannot be entered are passed over together with all that is inside them, and nothing
else is.

## Strategy

What the search does is compared with `Element.lookThrough`, which goes through a list of
places without any session.  The list is `preorder`, and the two agree by induction on the
depth of the search (`searches_scan`) and, at each depth, on the frames that are still to be
visited (`searches_visit`).  Both inductions start from a session that may be anywhere, since
the last visit may have ended anywhere: it is `explores_enter` that brings it to its place.
-/

namespace BrowserSuite

namespace Scripted

variable {e : Element} {path : List Nat} {n : Nat}

/-! ## Going through places without a session -/

/-- Looks an element up in one place after the other, when it has been looked up `n` times
already: the places looked into, and the one where it was found. -/
def Element.lookThrough (e : Element) :
    Nat → List (List Nat) → List (List Nat) × Option (List Nat)
  | _, [] => ([], none)
  | n, path :: rest =>
    if endOf path = e.node ∧ e.appearAfter ≤ n then ([path], some path)
    else (path :: (e.lookThrough (n + 1) rest).1, (e.lookThrough (n + 1) rest).2)

theorem Element.lookThrough_append_of_found {first rest : List (List Nat)}
    (h : (e.lookThrough n first).2 = some path) :
    e.lookThrough n (first ++ rest) = e.lookThrough n first := by
  induction first generalizing n with
  | nil => cases h
  | cons p first ih =>
      simp only [List.cons_append, lookThrough] at h ⊢
      split
      · rfl
      · next hmissing =>
          rw [if_neg hmissing] at h
          rw [ih h]

theorem Element.lookThrough_append_of_missing {first : List (List Nat)}
    (h : (e.lookThrough n first).2 = none) :
    (e.lookThrough n first).1 = first ∧ ∀ rest,
      e.lookThrough n (first ++ rest) =
        (first ++ (e.lookThrough (n + first.length) rest).1,
          (e.lookThrough (n + first.length) rest).2) := by
  induction first generalizing n with
  | nil => exact ⟨rfl, fun _ => rfl⟩
  | cons p first ih =>
      have hmissing : ¬ (endOf p = e.node ∧ e.appearAfter ≤ n) := by
        intro hthere
        simp [lookThrough, hthere] at h
      simp only [List.cons_append, lookThrough, hmissing, ↓reduceIte, List.length_cons] at h ⊢
      obtain ⟨hall, hrest⟩ := ih h
      refine ⟨congrArg (p :: ·) hall, fun rest => ?_⟩
      rw [hrest, Nat.add_assoc, Nat.add_comm 1]

/-- Either the element is found in some place, and nothing after it is looked into, or all
places have been looked into in vain. -/
theorem Element.lookThrough_cases (e : Element) (n : Nat) (places : List (List Nat)) :
    (∃ before path after, places = before ++ path :: after ∧ endOf path = e.node ∧
        e.lookThrough n places = (before ++ [path], some path)) ∨
      ((∀ path ∈ places, endOf path = e.node → n < e.appearAfter) ∧
        e.lookThrough n places = (places, none)) := by
  induction places generalizing n with
  | nil => exact .inr ⟨List.forall_mem_nil _, rfl⟩
  | cons p rest ih =>
      by_cases hthere : endOf p = e.node ∧ e.appearAfter ≤ n
      · exact .inl ⟨[], p, rest, rfl, hthere.1, by simp [lookThrough, hthere]⟩
      · simp only [lookThrough, hthere, ↓reduceIte]
        rcases ih (n + 1) with ⟨before, path, after, rfl, hend, hfound⟩ | ⟨hmissing, hall⟩
        · exact .inl ⟨p :: before, path, after, rfl, hend, by simp [hfound]⟩
        · refine .inr ⟨List.forall_mem_cons.mpr ⟨?_, ?_⟩, by rw [hall]⟩
          · intro hnode
            exact Nat.lt_of_not_le fun happears => hthere ⟨hnode, happears⟩
          · intro path hpath hnode
            exact Nat.lt_of_succ_lt (hmissing path hpath hnode)

/-- What the search answers when it finds the element at the end of a path. -/
def sighting (b : Scripted) (l : Locator) (e : Element) (path : List Nat) : FrameMatch Handle :=
  ⟨⟨l.text, e.node⟩, path.map b.frameHandle⟩

end Scripted

namespace FrameSearch

open Scripted

variable {w : World} {b₀ : Scripted} {barred : String → Bool} {l : Locator} {e : Element}
  {path : List Nat} {k n : Nat}

/-! ## Going to a frame -/

theorem explores_descend (hnested : b₀.Nested) {rest : List Nat}
    (hw : Searching b₀ barred e n path w.site.browser) (hrest : b₀.Below barred (endOf path) rest) :
    w.Explores (descend (rest.map b₀.frameHandle)) [] (.value ())
      (Searching b₀ barred e n (path ++ rest)) := by
  induction rest generalizing w path with
  | nil =>
      rw [List.append_nil]
      exact World.explores_pure () hw
  | cons k rest ih =>
      obtain ⟨hk, hrest⟩ := below_cons_iff.mp hrest
      refine (World.explores_switchToFrame hw hnested hk).bind fun v hv => ?_
      rw [← endOf_concat path k] at hrest
      rw [List.append_cons]
      exact ih hv hrest

/-- Wherever the session was before, it is at the end of the path afterwards. -/
theorem explores_enter (hnested : b₀.Nested) {p : List Nat}
    (hw : Searching b₀ barred e n p w.site.browser) (hpath : b₀.Reaches barred path) :
    w.Explores (enter (path.map b₀.frameHandle)) [] (.value ()) (Searching b₀ barred e n path) :=
  (World.explores_switchToDefault hw).bind fun _ hv => explores_descend hnested hv hpath

/-! ## Looking into the frames -/

/-- A task searches some places for the element that has been looked up `n` times: it looks
into them as `lookThrough` does and answers accordingly.  Afterwards the session may be
anywhere. -/
def Searches (b₀ : Scripted) (barred : String → Bool) (l : Locator) (e : Element) (n : Nat)
    (places : List (List Nat)) (w : World)
    (t : Task Handle BrowserError (Option (FrameMatch Handle))) : Prop :=
  w.Explores t (e.lookThrough n places).1
    (.value ((e.lookThrough n places).2.map (b₀.sighting l e)))
    fun b => ∃ p, Searching b₀ barred e (n + (e.lookThrough n places).1.length) p b

/-- One search after another is a search of both lists of places, if the second one is only
made where the first one has found nothing. -/
theorem Searches.bind {first rest : List (List Nat)}
    {t : Task Handle BrowserError (Option (FrameMatch Handle))}
    {f : Option (FrameMatch Handle) → Task Handle BrowserError (Option (FrameMatch Handle))}
    (ht : Searches b₀ barred l e n first w t) (hfound : ∀ m, f (some m) = pure (some m))
    (hmissing : ∀ (v : World) (p : List Nat),
      Searching b₀ barred e (n + first.length) p v.site.browser →
        Searches b₀ barred l e (n + first.length) rest v (f none)) :
    Searches b₀ barred l e n (first ++ rest) w (t >>= f) := by
  unfold Searches at ht
  cases hresult : (e.lookThrough n first).2 with
  | some q =>
      rw [hresult] at ht
      unfold Searches
      rw [Element.lookThrough_append_of_found hresult, hresult]
      refine World.Explores.bind_of_nil_right ht fun v hv => ?_
      rw [Option.map_some, hfound]
      exact World.explores_pure _ hv
  | none =>
      obtain ⟨hall, hthen⟩ := Element.lookThrough_append_of_missing hresult
      rw [hresult, hall] at ht
      unfold Searches
      rw [hthen rest, List.length_append, ← Nat.add_assoc]
      exact World.Explores.bind ht fun v ⟨p, hv⟩ => hmissing v p hv

/-- If each child is searched as `below` says, then the children are searched one after the
other, without those that are barred. -/
theorem searches_visit (hnested : b₀.Nested) (hpath : b₀.Reaches barred path)
    {look : List Handle → Task Handle BrowserError (Option (FrameMatch Handle))}
    {below : List Nat → List (List Nat)}
    (hlook : ∀ k n (v : World), b₀.Enters barred (endOf path) k →
      Searching b₀ barred e n (path ++ [k]) v.site.browser →
        Searches b₀ barred l e n (below (path ++ [k])) v
          (look ((path ++ [k]).map b₀.frameHandle)))
    {children : List Nat} (hchildren : ∀ k ∈ children, k ∈ b₀.childrenOf (endOf path))
    {p : List Nat} (hw : Searching b₀ barred e n p w.site.browser) :
    Searches b₀ barred l e n
      ((children.filter fun k => !barred (b₀.frameName k)).flatMap fun k => below (path ++ [k])) w
      (visit look (path.map b₀.frameHandle) (children.map b₀.frameHandle)) := by
  induction children generalizing w n p with
  | nil => exact World.explores_pure none ⟨p, hw⟩
  | cons k children ih =>
      obtain ⟨hk, hchildren⟩ := List.forall_mem_cons.mp hchildren
      refine (explores_enter hnested hw hpath).bind_of_nil_left fun v hv => ?_
      cases hbarred : barred (b₀.frameName k) with
      | true =>
          -- the switch fails, and the search goes on with the next child
          obtain ⟨err, htransient, hswitch⟩ := World.explores_switchToFrame_of_barred hv hbarred
          refine hswitch.attempt.bind_of_nil_left fun u hu => ?_
          rw [List.filter_cons_of_neg (by simp [hbarred])]
          simp only [htransient, ↓reduceIte]
          exact ih hchildren hu
      | false =>
          have hentered := World.explores_switchToFrame hv hnested ⟨hk, hbarred⟩
          refine hentered.attempt.bind_of_nil_left fun u hu => ?_
          have hsub := hlook k n u ⟨hk, hbarred⟩ hu
          rw [List.map_append] at hsub
          rw [List.filter_cons_of_pos (by simp [hbarred]), List.flatMap_cons]
          exact hsub.bind (fun m => rfl) fun v' q hv' => ih hchildren hv'

/-- The search below a path goes through `preorder`. -/
theorem searches_scan (hnested : b₀.Nested) (hkey : e.key = l.text) (hlost : e.sessionLost = false)
    (depth : Nat) (hpath : b₀.Reaches barred path)
    (hw : Searching b₀ barred e n path w.site.browser) :
    Searches b₀ barred l e n (b₀.preorder barred depth path) w
      (scan l depth (path.map b₀.frameHandle)) := by
  induction depth generalizing w n path with
  | zero => exact World.explores_pure none ⟨path, hw⟩
  | succ depth ih =>
      have hfind := World.explores_find hw hkey hlost
      unfold Searches preorder Element.lookThrough
      by_cases hthere : endOf path = e.node ∧ e.appearAfter ≤ n
      · rw [if_pos hthere] at hfind ⊢
        exact hfind.attempt.bind_of_nil_right fun v hv => World.explores_pure _ ⟨path, hv⟩
      · -- the frames inside are searched to one depth less
        rw [if_neg hthere] at hfind ⊢
        refine World.Explores.bind hfind.attempt fun v hv => ?_
        refine (World.explores_frames hv).bind_of_nil_left fun u hu => ?_
        have hlook : ∀ k n (v : World), b₀.Enters barred (endOf path) k →
            Searching b₀ barred e n (path ++ [k]) v.site.browser →
              Searches b₀ barred l e n (b₀.preorder barred depth (path ++ [k])) v
                (scan l depth ((path ++ [k]).map b₀.frameHandle)) :=
          fun k n v hk hv => ih (reaches_concat_iff.mpr ⟨hpath, hk⟩) hv
        rw [List.length_cons, Nat.add_comm (List.length _) 1, ← Nat.add_assoc]
        exact searches_visit hnested hpath hlook (fun k hk => hk) hu

/-! ## The whole search -/

theorem explores_frameBound {P : Scripted → Prop} (hw : P w.site.browser) :
    w.Explores (Task.frameBound : Task Handle BrowserError Nat) []
      (.value w.site.browser.frameBound) P :=
  ⟨rfl, rfl, hw⟩

/-- The search goes through the tree of frames and leaves the session at the document,
wherever it was before. -/
theorem explores_find_of_searching (hnested : b₀.Nested) (hkey : e.key = l.text)
    (hlost : e.sessionLost = false) (hw : Searching b₀ barred e n path w.site.browser) :
    let run := e.lookThrough n (b₀.preorder barred (b₀.frameBound + 1) [])
    w.Explores (find l) run.1 (.value (run.2.map (b₀.sighting l e)))
      (Searching b₀ barred e (n + run.1.length) []) := by
  intro run
  refine (World.explores_switchToDefault hw).bind_of_nil_left fun v hv => ?_
  have hbound : v.site.browser.frameBound = b₀.frameBound := by
    unfold frameBound
    rw [hv.frames]
  refine (explores_frameBound hv).bind_of_nil_left fun u hu => ?_
  rw [hbound]
  have hscan := searches_scan hnested hkey hlost (b₀.frameBound + 1) below_nil hu
  -- the scan may leave the session anywhere, and the last switch brings it back
  refine (World.Explores.attempt hscan).bind_of_nil_right fun v' ⟨p, hv'⟩ => ?_
  refine (World.explores_switchToDefault hv').attempt.bind_of_nil_left fun u' hu' => ?_
  exact World.explores_pure _ hu'

/-- A search may begin whenever the element is there. -/
theorem searching_start (hbars : Bars barred w.site.browser.rules)
    (helement : w.site.browser.element? l.text = some e) :
    e.key = l.text ∧
      Searching w.site.browser barred e e.lookups w.site.browser.context.reverse
        w.site.browser := by
  have hkey : e.key = l.text := by simpa using List.find?_some helement
  exact ⟨hkey, rfl, hbars, (congrArg w.site.browser.element? hkey).trans helement,
    (List.reverse_reverse _).symm⟩

/-- The search of the page as it is. -/
theorem explores_find (hnested : w.site.browser.Nested)
    (hbars : Bars barred w.site.browser.rules) (helement : w.site.browser.element? l.text = some e)
    (hlost : e.sessionLost = false) :
    let b := w.site.browser
    let run := e.lookThrough e.lookups (b.preorder barred (b.frameBound + 1) [])
    w.Explores (find l) run.1 (.value (run.2.map (b.sighting l e)))
      (Searching b barred e (e.lookups + run.1.length) []) := by
  obtain ⟨hkey, hstart⟩ := searching_start hbars helement
  exact explores_find_of_searching hnested hkey hlost hstart

/-- The frames are searched in the order of the document, each of them once and with the
session in it, until the element is found.  Afterwards the session is at the document. -/
theorem find_in_document_order (w : World) (barred : String → Bool) (l : Locator) (e : Element)
    (hnested : w.site.browser.Nested) (hbars : Bars barred w.site.browser.rules)
    (helement : w.site.browser.element? l.text = some e) (hprompt : e.appearAfter = 0)
    (hlost : e.sessionLost = false) :
    let b := w.site.browser
    let after := (w.run (find l)).2.site.browser
    ∃ order : List (List Nat),
      (∀ path, path ∈ order ↔ b.Reaches barred path) ∧ order.Pairwise b.Precedes ∧
        (order.map endOf).Nodup ∧ after.context = [] ∧
        after.lookupsOf l.text = b.lookupsOf l.text + (w.looks (find l)).length ∧
        ((∃ before path rest, order = before ++ path :: rest ∧ endOf path = e.node ∧
            (w.run (find l)).1 = .value (some ⟨⟨l.text, e.node⟩, path.map b.frameHandle⟩) ∧
            w.looks (find l) = before ++ [path]) ∨
          ((∀ path ∈ order, endOf path ≠ e.node) ∧ (w.run (find l)).1 = .value none ∧
            w.looks (find l) = order)) := by
  intro b after
  have hfind := explores_find hnested hbars helement hlost
  have hkey : e.key = l.text := by simpa using List.find?_some helement
  refine ⟨b.preorder barred (b.frameBound + 1) [], fun path => mem_preorder_iff hnested,
    pairwise_preorder _ _, nodup_map_endOf_preorder hnested, hfind.left.context, ?_, ?_⟩
  · have hafter : after.element? l.text = some { e with lookups := _ } :=
      (congrArg after.element? hkey).symm.trans hfind.left.element
    rw [hfind.looks]
    unfold lookupsOf
    rw [helement, hafter]
  · rcases e.lookThrough_cases e.lookups (b.preorder barred (b.frameBound + 1) []) with
      ⟨before, path, rest, horder, hend, hfound⟩ | ⟨hmissing, hall⟩
    · refine .inl ⟨before, path, rest, horder, hend, ?_, ?_⟩
      · rw [hfind.ending, hfound]
        rfl
      · rw [hfind.looks, hfound]
    · refine .inr ⟨fun path hpath hend => ?_, ?_, ?_⟩
      · have hlate := hmissing path hpath hend
        omega
      · rw [hfind.ending, hall]
        rfl
      · rw [hfind.looks, hall]

/-- A page on which the frames of advertisements cannot be entered.  One of them is beside
the editor, and the session starts inside the other. -/
def newsPage : Scripted :=
  let frames := ((((blank.addFrame 0 "ads").addFrame 1 "tracker").addFrame 0 "app").addFrame 3
    "ads").addFrame 3 "editor"
  { frames with
    elements := [⟨"id=body", 5, "hello", [], [], 0, false, 2⟩]
    rules := ["ads"].map (barringRule (.noSuchFrame "ads"))
    context := [2, 1] }

theorem nested_newsPage : newsPage.Nested := by
  have hframes : Nested _ := ((((nested_blank.addFrame "ads" (by decide : 0 < _)).addFrame
    "tracker" (by decide : 1 < _)).addFrame "app" (by decide : 0 < _)).addFrame "ads"
    (by decide : 3 < _)).addFrame "editor" (by decide : 3 < _)
  exact ⟨hframes.later, hframes.parent, hframes.nodup⟩

/-- The world of a session on that page. -/
def newsWorld : World := ⟨Site.start newsPage none 0, Store.empty, []⟩

theorem find_on_newsPage :
    newsPage.Nested ∧ Bars ["ads"].contains newsPage.rules ∧
      (newsWorld.run (find ⟨.id, "body"⟩)).1 =
        .value (some ⟨⟨"id=body", 5⟩, [⟨"frame:app", 3⟩, ⟨"frame:editor", 5⟩]⟩) ∧
      ∃ order rest : List (List Nat),
        (∀ path, path ∈ order ↔ newsPage.Reaches ["ads"].contains path) ∧
          order.Pairwise newsPage.Precedes ∧ (order.map endOf).Nodup ∧
          order = [[], [3], [3, 5]] ++ rest := by
  have hbars : Bars ["ads"].contains newsPage.rules := bars_barringRules rfl ["ads"]
  have hlooks : newsWorld.looks (find ⟨.id, "body"⟩) = [[], [3], [3, 5]] := by decide +kernel
  have hrun : (newsWorld.run (find ⟨.id, "body"⟩)).1 =
      .value (some ⟨⟨"id=body", 5⟩, [⟨"frame:app", 3⟩, ⟨"frame:editor", 5⟩]⟩) := by decide +kernel
  obtain ⟨order, hmem, hpairwise, hnodup, -, -, hresult⟩ := find_in_document_order newsWorld
    ["ads"].contains ⟨.id, "body"⟩ ⟨"id=body", 5, "hello", [], [], 0, false, 2⟩ nested_newsPage
    hbars (by decide +kernel) rfl rfl
  refine ⟨nested_newsPage, hbars, hrun, order, ?_⟩
  rcases hresult with ⟨before, path, rest, horder, -, -, hseen⟩ | ⟨-, hnone, -⟩
  · refine ⟨rest, hmem, hpairwise, hnodup, ?_⟩
    rw [horder, ← hlooks, hseen, List.append_assoc, List.singleton_append]
  · cases hrun.symm.trans hnone

end FrameSearch

end BrowserSuite
