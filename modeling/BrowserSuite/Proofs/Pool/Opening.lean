import BrowserSuite.Proofs.Browser.Panics
import BrowserSuite.Proofs.Pool.Run

/-!
# Opening sessions

A worker begins by opening a session.  Until then it has a copy of the caller's store, no
matter what the other workers have written to theirs (`store_of_opening`).  If no session is
refused, every worker goes on to take suites; that is so under every interleaving if the
browser's script says nothing against it (`allOpen_of_welcoming`).
-/

namespace BrowserSuite

namespace Scripted

/-- A rule that lets calls be carried out, if only after a delay. -/
structure Rule.Gentle (r : Rule) : Prop where
  panic : r.panic = none
  error : r.error = none

/-- The script of a browser that refuses no session. -/
structure Welcoming (b : Scripted) : Prop where
  refuses : b.refuses = false
  rules : ∀ r ∈ b.rules, r.op = "open" → r.Gentle

theorem Welcoming.of_sameScript {b b' : Scripted} (hb : b.Welcoming) (h : SameScript b b') :
    b'.Welcoming :=
  ⟨h.refuses.trans hb.refuses, h.rules ▸ hb.rules⟩

end Scripted

namespace Site

variable {s s' : Site} {op key : String} {rule : Option Scripted.Rule}

theorem welcoming_startCall (hs : s.browser.Welcoming) (h : s.startCall op key = (rule, s')) :
    s'.browser.Welcoming ∧ (op = "open" → ∀ r ∈ rule, r.Gentle) := by
  obtain ⟨hfound, hleft⟩ := Scripted.takeRule_forall (Q := fun r => r.op = "open" → r.Gentle)
    (fun r _ _ hr hop => ⟨(hr hop).panic, (hr hop).error⟩) op key hs.rules
  cases h
  exact ⟨⟨hs.refuses, hleft⟩, fun hop r hr => (hfound r hr).2 ((hfound r hr).1.trans hop)⟩

/-- A call leaves what the script says about opening. -/
theorem welcoming_endCall {c : Call Handle} {reply : Ending BrowserError c.Reply}
    (hs : s.browser.Welcoming) (h : s.endCall rule (·.perform c) = (reply, s')) :
    s'.browser.Welcoming := by
  have hsite := congrArg (fun ended => ended.2.browser) h
  dsimp only [endCall] at hsite
  rw [← hsite]
  unfold Scripted.endCall
  split
  · exact hs.of_sameScript (Scripted.sameScript_perform _ c)
  · split
    · exact hs
    · exact hs
    · exact hs.of_sameScript (Scripted.sameScript_perform _ c)

/-- Such a browser opens the session. -/
theorem open_of_welcoming {reply : Ending BrowserError Unit} (hs : s.browser.Welcoming)
    (hrule : ∀ r ∈ rule, r.Gentle) (h : s.endCall rule (·.openSession) = (reply, s')) :
    reply = .value () ∧ s'.browser.Welcoming := by
  have hopen : Scripted.endCall rule s.browser (·.openSession) =
      (.value (), { s.browser with opened := s.browser.opened + 1 }) := by
    cases rule with
    | none => simp [Scripted.endCall, Scripted.openSession, hs.refuses]
    | some r =>
        obtain ⟨hpanic, herror⟩ := hrule r rfl
        simp [Scripted.endCall, Scripted.openSession, hs.refuses, hpanic, herror]
  simp only [endCall, hopen] at h
  cases h
  exact ⟨rfl, hs.refuses, hs.rules⟩

end Site

namespace Desk

variable {settings : PageSettings} {d e : Desk} {w v : Worker}

/-- A worker that is about to open its session keeps its store. -/
theorem Does.store_of_opening (h : Does settings d w e v) (hv : v.phase = .opening) :
    w.phase = .opening ∧ v.store = w.store := by
  cases h with
  | waits => exact ⟨hv, rfl⟩
  | finishes =>
      dsimp only at hv
      split at hv <;> cases hv
  | _ => cases hv

theorem welcoming_underWay {op key : String} {rule : Option Scripted.Rule} {site : Site}
    (hd : d.site.browser.Welcoming) (h : d.underWay w op key = (rule, site)) :
    site.browser.Welcoming ∧
      (op = "open" → (∀ r ∈ w.held, r.Gentle) → ∀ r ∈ rule, r.Gentle) := by
  unfold underWay at h
  split at h
  · next r hheld =>
      cases h
      rw [hheld]
      exact ⟨hd, fun _ hgentle => hgentle⟩
  · obtain ⟨hsite, hrule⟩ := Site.welcoming_startCall hd h
    exact ⟨hsite, fun hop _ => hrule hop⟩

/-- A browser that refuses no session refuses none in a step, and none afterwards. -/
theorem Does.welcoming (h : Does settings d w e v) (hd : d.site.browser.Welcoming)
    (hheld : w.phase = .opening → ∀ r ∈ w.held, r.Gentle) :
    e.site.browser.Welcoming ∧ (v.phase = .opening → ∀ r ∈ v.held, r.Gentle) ∧
      (w.phase = .opening → v.phase ≠ .ended) := by
  cases h with
  | waits hcall _ hstart =>
      obtain ⟨hsite, hrule⟩ := Site.welcoming_startCall hd hstart
      refine ⟨hsite, fun hv => ?_, fun hw => by simp [hw]⟩
      rw [show w.phase = .opening from hv] at hcall
      cases hcall
      exact hrule rfl
  | opens hphase hway hreply =>
      obtain ⟨hsite, hrule⟩ := welcoming_underWay hd hway
      exact ⟨(Site.open_of_welcoming hsite (hrule rfl (hheld hphase)) hreply).2, nofun, nofun⟩
  | refused hphase hway hreply hne =>
      obtain ⟨hsite, hrule⟩ := welcoming_underWay hd hway
      exact absurd (Site.open_of_welcoming hsite (hrule rfl (hheld hphase)) hreply).1 hne
  | calls _ hway hreply =>
      exact ⟨Site.welcoming_endCall (welcoming_underWay hd hway).1 hreply, nofun, nofun⟩
  | closes hphase hway hreply =>
      refine ⟨Site.welcoming_endCall (welcoming_underWay hd hway).1 hreply, nofun, fun hw => ?_⟩
      rw [hphase] at hw
      cases hw
  | @asks _ r _ _ _ _ hlocal hreply =>
      cases r <;> cases hlocal <;> cases hreply <;> exact ⟨hd, nofun, nofun⟩
  | dies hphase =>
      refine ⟨hd, nofun, fun hw => ?_⟩
      rw [hphase] at hw
      cases hw
  | finishes =>
      refine ⟨hd, fun hv => ?_, fun _ => ?_⟩
      · dsimp only at hv
        split at hv <;> cases hv
      · dsimp only
        split <;> nofun
  | stops | takes | sleeps | sleepsUntil | writes => exact ⟨hd, nofun, nofun⟩

end Desk

namespace Crew

variable {settings : PageSettings} {suites : List Suite} {c : Crew} {turns : List Turn}
  {store : Store} {site : Site} {startedAt : Moment} {workers : Nat}

/-- No worker was refused a session. -/
def AllOpen (turns : List Turn) : Prop := ∀ t ∈ turns, t.before = .opening → t.after ≠ .ended

theorem length_workers_of_run
    (h : Run settings (start suites store site startedAt workers) turns c) :
    c.workers.length = workers := by
  induction h with
  | nil => simp [start]
  | turn _ _ _ _ _ ih => simpa using ih
  | cancel _ ih => exact ih

/-- Where there is something to do, there is a worker. -/
theorem workers_ne_nil_of_run {threads : Nat} (hthreads : 0 < threads)
    (h : Run settings (start suites store site startedAt (workerCount threads suites.length))
      turns c) (hne : suites ≠ []) : c.workers ≠ [] := by
  intro hnil
  have hlength := length_workers_of_run h
  have hpos : 0 < suites.length := List.length_pos_iff.mpr hne
  rw [hnil, workerCount, List.length_nil] at hlength
  omega

/-- Until it opens its session, a worker has the caller's store. -/
theorem store_of_opening (h : Run settings (start suites store site startedAt workers) turns c)
    {w : Worker} (hw : w ∈ c.workers) (hphase : w.phase = .opening) : w.store = store := by
  induction h generalizing w with
  | nil =>
      obtain ⟨i, -, rfl⟩ := List.mem_map.mp hw
      rfl
  | turn _ hu hlive _ hstep ih =>
      rcases List.mem_or_eq_of_mem_set hw with hw | rfl
      · exact ih hw hphase
      · obtain ⟨hbefore, hstore⟩ := (Desk.does_of_step hlive hstep).store_of_opening hphase
        rw [hstore]
        exact ih (List.mem_of_getElem? hu) hbefore
  | cancel _ ih => exact ih hw hphase

/-- If the script of the browser refuses no session, none is refused. -/
theorem allOpen_of_welcoming (hsite : site.browser.Welcoming)
    (h : Run settings (start suites store site startedAt workers) turns c) : AllOpen turns := by
  have hall : c.desk.site.browser.Welcoming ∧
      (∀ w ∈ c.workers, w.phase = .opening → ∀ r ∈ w.held, r.Gentle) ∧ AllOpen turns := by
    induction h with
    | nil =>
        refine ⟨hsite, fun w hw _ r hr => ?_, nofun⟩
        obtain ⟨i, -, rfl⟩ := List.mem_map.mp hw
        cases hr
    | turn _ hu hlive _ hstep ih =>
        obtain ⟨hbrowser, hheld, hopen⟩ := ih
        obtain ⟨hbrowser', hheld', hopen'⟩ := (Desk.does_of_step hlive hstep).welcoming hbrowser
          (hheld _ (List.mem_of_getElem? hu))
        refine ⟨hbrowser', fun w hw => ?_, List.forall_mem_append.mpr ⟨hopen, ?_⟩⟩
        · rcases List.mem_or_eq_of_mem_set hw with hw | rfl
          · exact hheld w hw
          · exact hheld'
        · exact List.forall_mem_singleton.mpr hopen'
    | cancel _ ih => exact ih
  exact hall.2.2

end Crew

end BrowserSuite
