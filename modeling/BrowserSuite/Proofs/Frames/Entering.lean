import BrowserSuite.Proofs.Frames.Search
import BrowserSuite.Proofs.Page.Parts
import BrowserSuite.Proofs.Wait.Course

/-!
# Entering the frame of an element

To enter the frame of an element, a page searches all frames again and again until it finds
the element in one of them, and then goes down the path that the search has recorded.  It ends
up in the frame of the element, where the next look-up finds it, or at the document with a
timeout (`find_frame_enters_frame`).

## Strategy

`Searching` is what carries the proof, since it makes no matter where a search starts.  Each
search leaves the session at the document and has looked the element up some more times
(`run_seek`), and a pause changes nothing on the page, so the last search of a wait finds the
page as the first one did but for the number of look-ups.  As look-ups only make an element
appear, an element that was found once is found again.
-/

namespace BrowserSuite

namespace Scripted

variable {rules : List Rule} {e : Element} {path : List Nat} {n : Nat}

/-- No call fails or panics because of a rule.  Rules may still delay calls and cancel the
run. -/
def Undisturbed (rules : List Rule) : Prop := ∀ r ∈ rules, r.panic = none ∧ r.error = none

instance (rules : List Rule) : Decidable (Undisturbed rules) :=
  inferInstanceAs (Decidable (∀ r ∈ rules, r.panic = none ∧ r.error = none))

/-- All frames can be entered. -/
theorem Undisturbed.bars (h : Undisturbed rules) : Bars (fun _ => false) rules := by
  have htake : ∀ rules op key, Undisturbed rules →
      (∀ r ∈ (takeRule op key rules).1, r.panic = none ∧ r.error = none) ∧
        Undisturbed (takeRule op key rules).2 := by
    intro rules op key h
    obtain ⟨hfound, hleft⟩ := takeRule_forall (Q := fun r => r.panic = none ∧ r.error = none)
      (fun _ _ _ hr => hr) op key h
    exact ⟨fun r hr => (hfound r hr).2, hleft⟩
  have hafter : ∀ calls, Undisturbed (rulesAfter rules calls) := by
    intro calls
    induction calls generalizing rules with
    | nil => exact h
    | cons call calls ih => exact ih (htake rules call.1 call.2 h).2
  constructor
  · rintro calls op key ⟨-, name, -, hbarred⟩
    cases hbarred
  · exact fun calls op key _ => (htake _ op key (hafter calls)).1

/-- When an element has been found it has been looked up often enough to appear. -/
theorem Element.appearAfter_lt_of_found {places : List (List Nat)}
    (h : (e.lookThrough n places).2 = some path) :
    e.appearAfter < n + (e.lookThrough n places).1.length := by
  induction places generalizing n with
  | nil => cases h
  | cons p rest ih =>
      unfold lookThrough at h ⊢
      split
      · next hthere => exact Nat.lt_succ_of_le hthere.2
      · next hmissing =>
          rw [if_neg hmissing] at h
          have hrest := ih h
          rw [List.length_cons]
          omega

end Scripted

namespace FrameSearch

open Scripted

variable {w : World} {b₀ : Scripted} {barred : String → Bool} {l : Locator} {e : Element}
  {path : List Nat} {n : Nat} {wait : WaitPolicy}

/-- What the search for an element that has been looked up `n` times comes to: it is found in
its frame and appears from now on, or it is in no frame or does not appear yet. -/
def SeeksTo (b₀ : Scripted) (barred : String → Bool) (l : Locator) (e : Element) (n m : Nat)
    (ending : Ending BrowserError (FrameMatch Handle)) : Prop :=
  (∃ place, b₀.Reaches barred place ∧ endOf place = e.node ∧ e.appearAfter < m ∧
      ending = .value (b₀.sighting l e place)) ∨
    (∀ place, b₀.Reaches barred place → endOf place = e.node → n < e.appearAfter) ∧
      ending = .failed (.noSuchElement l.text)

/-- A search that fails if it finds nothing leaves the session at the document too. -/
theorem run_seek (hnested : b₀.Nested) (hkey : e.key = l.text) (hlost : e.sessionLost = false)
    (hw : Searching b₀ barred e n path w.site.browser) :
    ∃ m, n ≤ m ∧ Searching b₀ barred e m [] (w.run (seek l)).2.site.browser ∧
      SeeksTo b₀ barred l e n m (w.run (seek l)).1 := by
  have hfind := explores_find_of_searching hnested hkey hlost hw
  rcases e.lookThrough_cases n (b₀.preorder barred (b₀.frameBound + 1) []) with
    ⟨before, place, rest, horder, hend, hfound⟩ | ⟨hmissing, hall⟩
  · have hplace : place ∈ b₀.preorder barred (b₀.frameBound + 1) [] := by simp [horder]
    have happears := Element.appearAfter_lt_of_found (congrArg Prod.snd hfound)
    rw [hfound] at hfind happears
    have hseek : w.Explores (seek l) _ (.value (b₀.sighting l e place)) _ :=
      World.Explores.bind_of_nil_right hfind fun v hv => World.explores_pure _ hv
    exact ⟨_, Nat.le_add_right n _, hseek.left,
      .inl ⟨place, (mem_preorder_iff hnested).mp hplace, hend, happears, hseek.ending⟩⟩
  · rw [hall] at hfind
    have hseek : w.Explores (seek l) _ (.failed (.noSuchElement l.text)) _ :=
      World.Explores.bind_of_nil_right hfind fun v hv => ⟨rfl, rfl, hv⟩
    exact ⟨_, Nat.le_add_right n _, hseek.left,
      .inr ⟨fun place hplace => hmissing place ((mem_preorder_iff hnested).mpr hplace),
        hseek.ending⟩⟩

/-- The waiting search ends as its last search does, and the look-ups of the searches before
that only count. -/
theorem run_wait_seek (hnested : b₀.Nested) (hkey : e.key = l.text) (hlost : e.sessionLost = false)
    (hpoll : 0 < wait.poll) (hw : Searching b₀ barred e n path w.site.browser)
    (awaited : String) :
    ∃ m x, Searching b₀ barred e m [] (w.run (wait.wait (seek l) awaited)).2.site.browser ∧
      SeeksTo b₀ barred l e n m x ∧
      (w.run (wait.wait (seek l) awaited)).1 = WaitPolicy.verdict awaited x := by
  obtain ⟨made, u, htries, hlength⟩ :=
    WaitPolicy.exists_tries_wait (p := wait) World.timed hpoll (seek l) w
  -- the invariant: the page is as it was, and the element has been looked up `n` times or more
  have hmade : ∀ v ∈ made, ∃ k p, n ≤ k ∧ Searching b₀ barred e k p v.site.browser := by
    refine htries.forall_mem ?_ ⟨n, path, Nat.le_refl n, hw⟩
    rintro v ⟨k, p, hk, hv⟩ -
    obtain ⟨m, hm, hafter, -⟩ := run_seek hnested hkey hlost hv
    refine ⟨m, [], Nat.le_trans hk hm, ?_⟩
    have hpause : ∀ (u : World) time, (World.answer u (.sleepUntil time)).2.site.browser =
        u.site.browser := fun u time => Site.browser_elapseUntil u.site time
    unfold WaitPolicy.resume
    rw [hpause]
    exact hafter
  obtain ⟨k, p, hk, hu⟩ := hmade u htries.last_mem
  obtain ⟨m, -, hafter, hresult⟩ := run_seek hnested hkey hlost hu
  have hrun : w.run (wait.wait (seek l) awaited) =
      (WaitPolicy.verdict awaited (u.run (seek l)).1, (u.run (seek l)).2) :=
    htries.run_wait World.timed hlength awaited
  refine ⟨m, (u.run (seek l)).1, ?_, hresult.imp_right ?_, ?_⟩
  · rw [hrun]
    exact hafter
  · rintro ⟨hlate, hfailed⟩
    exact ⟨fun place hplace hend => Nat.lt_of_le_of_lt hk (hlate place hplace hend), hfailed⟩
  · rw [hrun]

end FrameSearch

namespace PageRun

open Scripted FrameSearch

variable {w : World} {b₀ : Scripted} {barred : String → Bool} {l : Locator} {e : Element}
  {path : List Nat} {n : Nat} {wait : WaitPolicy} {kind target : String}

/-- The page goes down to the element where the waiting search has found it. -/
theorem run_enterFrameOf (hlocator : locator kind target = .ok l) (hnested : b₀.Nested)
    (hkey : e.key = l.text) (hlost : e.sessionLost = false) (hpoll : 0 < wait.poll)
    (hw : Searching b₀ barred e n path w.site.browser) :
    let run := w.run (enterFrameOf wait kind target)
    (∃ m place, b₀.Reaches barred place ∧ endOf place = e.node ∧ e.appearAfter ≤ m ∧
        run.1 = .value () ∧ Searching b₀ barred e m place run.2.site.browser) ∨
      ((∀ place, b₀.Reaches barred place → endOf place = e.node → n < e.appearAfter) ∧
        run.1 = .failed (.timeout s!"cannot find frame for element: {target}") ∧
        ∃ m, Searching b₀ barred e m [] run.2.site.browser) := by
  intro run
  let search : Task Handle RunError (FrameMatch Handle) :=
    wait.wait (seek l) s!"cannot find frame for element: {target}"
  obtain ⟨m, x, hsearched, hresult, hending⟩ := run_wait_seek hnested hkey hlost hpoll hw
    s!"cannot find frame for element: {target}"
  have hwait : w.run search = (WaitPolicy.verdict _ x, (w.run search).2) := Prod.ext hending rfl
  have hrun : run = w.run (search >>= fun found =>
      (enter found.path).mapError RunError.ofBrowser) := by
    show w.run (enterFrameOf wait kind target) = _
    unfold enterFrameOf
    rw [hlocator]
    rfl
  rcases hresult with ⟨place, hplace, hend, happears, rfl⟩ | ⟨hlate, rfl⟩
  · -- the page has not changed since the path was recorded, so it leads to the same frame
    have henter := explores_enter hnested hsearched hplace
    obtain ⟨v, hentered⟩ : ∃ v, (w.run search).2.run (enter (place.map b₀.frameHandle)) =
        (.value (), v) := ⟨_, Prod.ext henter.ending rfl⟩
    have hv := henter.left
    rw [hentered] at hv
    rw [World.run_bind_of_value hwait, World.run_mapError] at hrun
    dsimp only [sighting] at hrun
    rw [hentered] at hrun
    rw [hrun]
    exact .inl ⟨m, place, hplace, hend, Nat.le_of_lt happears, rfl, hv⟩
  · rw [World.run_bind, hwait] at hrun
    refine .inr ⟨hlate, ?_, m, ?_⟩
    · rw [hrun]
      rfl
    · rw [hrun]
      exact hsearched

/-- To find the frame of an element is to end up in it, and the next look-up finds the
element.  Otherwise the page stops with a timeout and the session is at the document: the
element is in no frame, or did not appear yet when the search began. -/
theorem find_frame_enters_frame (w : World) (wait : WaitPolicy) (chain : Option (Chain Handle))
    {kind target : String} {l : Locator} {e : Element} (hlocator : locator kind target = .ok l)
    (hnested : w.site.browser.Nested) (hrules : Undisturbed w.site.browser.rules)
    (helement : w.site.browser.element? l.text = some e) (hlost : e.sessionLost = false)
    (hpoll : 0 < wait.poll) :
    let b := w.site.browser
    let ending := (w.run (execute wait chain (.findFrame kind target))).1
    let after := (w.run (execute wait chain (.findFrame kind target))).2
    (ending = .value chain ∧
        (∃ path, b.Reaches (fun _ => false) path ∧ endOf path = e.node ∧
          after.site.browser.context = path.reverse) ∧
        (after.run (Task.call (.find l))).1 = .value ⟨l.text, e.node⟩) ∨
      (ending = .failed (.timeout s!"cannot find frame for element: {target}") ∧
        after.site.browser.context = [] ∧
        ∀ path, b.Reaches (fun _ => false) path → endOf path = e.node →
          e.lookups < e.appearAfter) := by
  obtain ⟨hkey, hstart⟩ := searching_start hrules.bars helement
  have hexecute : w.run (execute wait chain (.findFrame kind target)) =
      w.run (enterFrameOf wait kind target >>= fun _ => pure chain) := rfl
  have hentering := run_enterFrameOf hlocator hnested hkey hlost hpoll hstart
  rw [World.run_bind] at hexecute
  rw [hexecute]
  generalize w.run (enterFrameOf wait kind target) = run at hentering ⊢
  obtain ⟨x, v⟩ := run
  intro b ending after
  rcases hentering with ⟨m, path, hpath, hend, happears, hvalue, hentered⟩ |
    ⟨hlate, hfailed, m, hentered⟩
  · cases hvalue
    refine .inl ⟨rfl, ⟨path, hpath, hend, hentered.context⟩, ?_⟩
    have hfound := (World.explores_find hentered hkey hlost).ending
    rw [if_pos ⟨hend, happears⟩] at hfound
    exact hfound
  · cases hfailed
    exact .inr ⟨rfl, hentered.context, hlate⟩

/-- Panes inside panes, all of the same name, and slow to list what is in them.  The session
starts in one of them, and the editor is in another and appears at the seventh look-up. -/
def panesPage : Scripted :=
  let frames := (((blank.addFrame 0 "pane").addFrame 1 "pane").addFrame 0 "pane").addFrame 3 "pane"
  { frames with
    elements := [⟨"id=editor", 4, "", [], [], 6, false, 0⟩]
    rules := [⟨"frames", none, 1, none, 10, false, none, none⟩]
    context := [2, 1] }

theorem nested_panesPage : panesPage.Nested := by
  have hframes : Nested _ := (((nested_blank.addFrame "pane" (by decide : 0 < _)).addFrame
    "pane" (by decide : 1 < _)).addFrame "pane" (by decide : 0 < _)).addFrame
    "pane" (by decide : 3 < _)
  exact ⟨hframes.later, hframes.parent, hframes.nodup⟩

/-- The second search finds the editor, and the session goes from another pane to its own. -/
theorem find_frame_on_panesPage :
    let w : World := ⟨Site.start panesPage none 0, Store.empty, []⟩
    let wait : WaitPolicy := ⟨250, 100, by decide⟩
    let task := execute wait none (.findFrame "id" "editor")
    panesPage.Nested ∧ Undisturbed panesPage.rules ∧ (w.run task).1 = .value none ∧
      (w.run task).2.site.browser.context = [4, 3] ∧
      (w.run task).2.site.browser.counts.lookup "find" = some 10 ∧
      ((w.run task).2.run (Task.call (.find ⟨.id, "editor"⟩))).1 = .value ⟨"id=editor", 4⟩ := by
  intro w wait task
  have hrules : Undisturbed panesPage.rules := by decide
  have hlocator : locator "id" "editor" = .ok ⟨.id, "editor"⟩ := by decide
  have helement : panesPage.element? "id=editor" =
      some ⟨"id=editor", 4, "", [], [], 6, false, 0⟩ := by decide +kernel
  have hvalue : (w.run task).1 = .value none := by decide +kernel
  refine ⟨nested_panesPage, hrules, hvalue, by decide +kernel, by decide +kernel, ?_⟩
  rcases find_frame_enters_frame w wait none hlocator nested_panesPage hrules helement rfl
    (by decide) with ⟨-, -, hfound⟩ | ⟨hfailed, -⟩
  · exact hfound
  · cases hvalue.symm.trans hfailed

end PageRun

end BrowserSuite
