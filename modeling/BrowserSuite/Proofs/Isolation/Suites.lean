import BrowserSuite.Engine.SuiteRun
import BrowserSuite.Engine.World
import BrowserSuite.Proofs.Isolation.Variables
import BrowserSuite.Proofs.Program.Endings
import Mathlib.Tactic.Choose

/-!
# What a confined suite does wherever it runs

`Goes W post σ lines p` says what a program does that is not cancelled: with the store `σ`
at its beginning it writes `lines` to the log and ends as `post` says, whatever the clock
shows and however long its pauses take.  It makes no session call, and all variables that
it sets are in `W`.

A task is `Blind` to some variables if it goes in the same way from all stores that agree
off them; it also says off which variables they agree then.  Blindness goes through
composition.  An action of a confined suite is blind to what is unsettled and settles the
variable that it writes (`blind_runAction`), so a confined suite does the same from every
store that agrees with a given one off the variables that suites write (`Suite.goes_run`).
-/

namespace BrowserSuite

/-! ## Programs that ask neither the session nor for chance -/

/-- In a run that is not cancelled, a program that begins with some store writes some lines
and ends as `post` says. -/
inductive Goes {β : Type} (W : String → Prop) (post : β → Store → Prop) :
    Store → List String → Program (Effect.Reply Handle) β → Prop
  | done {σ : Store} {b : β} (h : post b σ) : Goes W post σ [] (.done b)
  | readStore {σ : Store} {lines : List String} {next : Store → _}
      (h : Goes W post σ lines (next σ)) : Goes W post σ lines (.ask .readStore next)
  | setVariable {σ : Store} {lines : List String} {key : String} {value : Json.Value}
      {next : Unit → _} (hkey : W key) (h : Goes W post (σ.set key value) lines (next ())) :
      Goes W post σ lines (.ask (.setVariable key value) next)
  | log {σ : Store} {lines : List String} {message : String} {next : Unit → _}
      (h : Goes W post σ lines (next ())) :
      Goes W post σ (message :: lines) (.ask (.log message) next)
  | sleep {σ : Store} {lines : List String} {ms : Nat} {next : Unit → _}
      (h : Goes W post σ lines (next ())) : Goes W post σ lines (.ask (.sleep ms) next)
  | now {σ : Store} {lines : List String} {next : Nat → _}
      (h : ∀ time, Goes W post σ lines (next time)) : Goes W post σ lines (.ask .now next)
  | isCancelled {σ : Store} {lines : List String} {next : Bool → _}
      (h : Goes W post σ lines (next false)) : Goes W post σ lines (.ask .isCancelled next)

namespace Goes

variable {α β : Type} {W : String → Prop} {post : β → Store → Prop} {σ : Store}
  {lines more : List String}

theorem bind {before : α → Store → Prop} {p : Program (Effect.Reply Handle) α}
    {f : α → Program (Effect.Reply Handle) β} (h : Goes W before σ lines p)
    (hf : ∀ a σ', before a σ' → Goes W post σ' more (f a)) :
    Goes W post σ (lines ++ more) (p.bind f) := by
  induction h with
  | done ha => exact hf _ _ ha
  | readStore _ ih => exact .readStore ih
  | setVariable hkey _ ih => exact .setVariable hkey ih
  | log _ ih => exact .log ih
  | sleep _ ih => exact .sleep ih
  | now _ ih => exact .now ih
  | isCancelled _ ih => exact .isCancelled ih

theorem mono {post' : β → Store → Prop} {p : Program (Effect.Reply Handle) β}
    (h : Goes W post σ lines p) (hpost : ∀ b σ', post b σ' → post' b σ') :
    Goes W post' σ lines p := by
  have hbind : Goes W post' σ (lines ++ []) (p.bind .done) :=
    h.bind fun b σ' hb => .done (hpost b σ' hb)
  rwa [Program.bind_done, List.append_nil] at hbind

/-- A task goes on with `f` after a value. -/
theorem bind_value {ε : Type} {before : α → Store → Prop} {post : Ending ε β → Store → Prop}
    {t : Task Handle ε α} {f : α → Task Handle ε β}
    (h : Goes W (fun e σ' => ∃ a, e = .value a ∧ before a σ') σ lines t)
    (hf : ∀ a σ', before a σ' → Goes W post σ' more (f a)) :
    Goes W post σ (lines ++ more) (Task.bind t f) := by
  refine h.bind ?_
  rintro _ σ' ⟨a, rfl, ha⟩
  exact hf a σ' ha

theorem ending {ε : Type} {post : Ending ε α → Store → Prop} {t : Task Handle ε α}
    (h : Goes W post σ lines t) :
    Goes W (fun e σ' => ∃ x, post x σ' ∧ e = x.caught) σ lines t.ending := by
  have hcaught : Goes W (fun e σ' => ∃ x, post x σ' ∧ e = x.caught) σ (lines ++ []) t.ending := by
    refine h.bind fun x σ' hx => ?_
    cases x with
    | panicked p => cases p <;> exact .done ⟨_, hx, rfl⟩
    | _ => exact .done ⟨_, hx, rfl⟩
  rwa [List.append_nil] at hcaught

theorem ne_call {r : Effect Handle} {next : r.Reply Handle → Program (Effect.Reply Handle) β}
    (h : Goes W post σ lines (.ask r next)) : ∀ c, r ≠ .call c := by
  rintro c rfl
  cases h

theorem of_done {b : β} (h : Goes W post σ lines (.done b)) : lines = [] ∧ post b σ := by
  cases h with
  | done hb => exact ⟨rfl, hb⟩

/-- One answer, in a run that is not cancelled: what is then left of the program goes on
with what is then left of the lines, and only variables in `W` have been set. -/
theorem answer {r : Effect Handle} {next : r.Reply Handle → Program (Effect.Reply Handle) β}
    {site : Site} {reply : r.Reply Handle} {world : World}
    (h : Goes W post σ lines (.ask r next)) (hgo : site.cancelled = false)
    (hanswer : World.answer ⟨site, σ, []⟩ r = (reply, world)) :
    ∃ rest, lines = (Task.Step.message? ⟨r, reply⟩).toList ++ rest ∧
      Goes W post world.store rest (next reply) ∧ world.store.AgreeOff W σ := by
  cases h with
  | readStore h | log h | sleep h =>
      cases hanswer
      exact ⟨_, rfl, h, .refl _⟩
  | now h =>
      cases hanswer
      exact ⟨_, rfl, h _, .refl _⟩
  | isCancelled h =>
      cases hanswer
      rw [← hgo] at h
      exact ⟨_, rfl, h, .refl _⟩
  | setVariable hkey h =>
      cases hanswer
      exact ⟨_, rfl, h, Store.agreeOff_set _ _ hkey⟩

/-- In a world of its own that is never cancelled, the program does the same. -/
theorem run {w : World} {p : Program (Effect.Reply Handle) β} (h : Goes W post w.store lines p)
    (hgo : w.site.cancelled = false) (hnever : w.site.cancelAt = none) :
    post (p.run World.answer w).1 (p.run World.answer w).2.store ∧
      (p.run World.answer w).2.log = w.log ++ lines := by
  generalize hσ : w.store = σ at h
  induction h generalizing w with
  | done hb =>
      subst hσ
      exact ⟨hb, (List.append_nil _).symm⟩
  | readStore _ ih =>
      subst hσ
      exact ih hgo hnever rfl
  | setVariable _ _ ih =>
      subst hσ
      exact ih (w := { w with store := w.store.set _ _ }) hgo hnever rfl
  | @log _ _ message _ _ ih =>
      obtain ⟨hpost, hlog⟩ := ih (w := { w with log := w.log ++ [message] }) hgo hnever hσ
      refine ⟨hpost, hlog.trans ?_⟩
      exact List.append_assoc w.log [message] _
  | @sleep _ _ ms _ _ ih =>
      refine ih (w := { w with site := w.site.elapse ms }) ?_ ?_ hσ
      · unfold Site.elapse
        split
        · exact hgo
        · simp [Site.advance, hgo, hnever]
      · unfold Site.elapse
        split <;> exact hnever
  | now _ ih => exact ih _ hgo hnever hσ
  | isCancelled _ ih =>
      have hnext := ih hgo hnever hσ
      rw [← hgo] at hnext
      exact hnext

end Goes

/-! ## Tasks that do not see some variables -/

/-- After such an ending of a page its worker can go on. -/
def Ending.Mild {α : Type} : Ending RunError α → Prop
  | .value _ => True
  | .failed e => e.endsWorker = false
  | .panicked p => p ≠ .fatal

/-- From all stores that agree off `D` a task does the same.  If it ends with a value, the
stores agree off `D'` then. -/
def Blind {α : Type} (W D D' : String → Prop) (t : Task Handle RunError α) : Prop :=
  ∀ ρ : Store, ∃ lines x ρ', x.Mild ∧ ∀ σ : Store, σ.AgreeOff D ρ →
    Goes W (fun e σ' => e = x ∧ ∀ a, x = .value a → σ'.AgreeOff D' ρ') σ lines t

namespace Blind

variable {α β : Type} {W D D' D'' : String → Prop} {t : Task Handle RunError α}

theorem pure (a : α) : Blind W D D (Pure.pure a : Task Handle RunError α) :=
  fun ρ => ⟨[], .value a, ρ, trivial, fun _ hσ => .done ⟨rfl, fun _ _ => hσ⟩⟩

theorem fail {e : RunError} (he : e.endsWorker = false) :
    Blind W D D' (Task.fail e : Task Handle RunError α) :=
  fun ρ => ⟨[], .failed e, ρ, he, fun _ _ => .done ⟨rfl, nofun⟩⟩

theorem panicWith {p : Panic} (hp : p ≠ .fatal) :
    Blind W D D' (Task.panicWith p : Task Handle RunError α) :=
  fun ρ => ⟨[], .panicked p, ρ, hp, fun _ _ => .done ⟨rfl, nofun⟩⟩

theorem log (message : String) : Blind W D D (Task.log message) :=
  fun ρ => ⟨[message], .value (), ρ, trivial, fun _ hσ => .log (.done ⟨rfl, fun _ _ => hσ⟩)⟩

theorem sleep (ms : Nat) : Blind W D D (Task.sleep ms) :=
  fun ρ => ⟨[], .value (), ρ, trivial, fun _ hσ => .sleep (.done ⟨rfl, fun _ _ => hσ⟩)⟩

/-- A variable that a task sets is settled. -/
theorem setVariable {key : String} (hkey : W key) (value : Json.Value) :
    Blind W D (fun k => D k ∧ k ≠ key) (Task.setVariable key value) :=
  fun ρ => ⟨[], .value (), ρ.set key value, trivial, fun _ hσ =>
    .setVariable hkey (.done ⟨rfl, fun _ _ => hσ.set key value⟩)⟩

theorem bind {f : α → Task Handle RunError β} (ht : Blind W D D' t)
    (hf : ∀ a, Blind W D' D'' (f a)) : Blind W D D'' (t >>= f) := by
  intro ρ
  obtain ⟨lines, x, ρ', hx, ht⟩ := ht ρ
  cases x with
  | value a =>
      obtain ⟨more, y, ρ'', hy, hf⟩ := hf a ρ'
      refine ⟨lines ++ more, y, ρ'', hy, fun σ hσ => (ht σ hσ).bind ?_⟩
      rintro _ σ' ⟨rfl, hσ'⟩
      exact hf σ' (hσ' a rfl)
  | failed e =>
      refine ⟨lines ++ [], .failed e, ρ', hx, fun σ hσ => (ht σ hσ).bind ?_⟩
      rintro _ σ' ⟨rfl, -⟩
      exact .done ⟨rfl, nofun⟩
  | panicked p =>
      refine ⟨lines ++ [], .panicked p, ρ', hx, fun σ hσ => (ht σ hσ).bind ?_⟩
      rintro _ σ' ⟨rfl, -⟩
      exact .done ⟨rfl, nofun⟩

theorem mono (ht : Blind W D D' t) (hD : ∀ key, D' key → D'' key) : Blind W D D'' t := by
  intro ρ
  obtain ⟨lines, x, ρ', hx, ht⟩ := ht ρ
  refine ⟨lines, x, ρ', hx, fun σ hσ => (ht σ hσ).mono ?_⟩
  exact fun e σ' h => ⟨h.1, fun a ha => (h.2 a ha).mono hD⟩

/-- A task that reads the store may read what is the same in all of them. -/
theorem readStore {f : Store → Task Handle RunError α} (hf : ∀ ρ, Blind W D D' (f ρ))
    (hsettled : ∀ σ ρ : Store, σ.AgreeOff D ρ → f σ = f ρ) :
    Blind W D D' (Task.readStore >>= f) := by
  intro ρ
  obtain ⟨lines, x, ρ', hx, hf⟩ := hf ρ ρ
  refine ⟨lines, x, ρ', hx, fun σ hσ => .readStore ?_⟩
  change Goes _ _ σ lines (f σ)
  rw [hsettled σ ρ hσ]
  exact hf σ hσ

/-- In a run that is not cancelled, a task that looks goes on. -/
theorem isCancelled {f : Bool → Task Handle RunError α} (hf : Blind W D D' (f false)) :
    Blind W D D' (Task.isCancelled >>= f) := by
  intro ρ
  obtain ⟨lines, x, ρ', hx, hf⟩ := hf ρ
  exact ⟨lines, x, ρ', hx, fun σ hσ => .isCancelled (hf σ hσ)⟩

theorem orStop {y : Except RunError α} (hy : ∀ e, y = .error e → e.endsWorker = false) :
    Blind W D D (PageRun.orStop y) := by
  cases y with
  | ok a => exact .pure a
  | error e => exact .fail (hy e rfl)

end Blind

/-! ## Confined actions -/

namespace PageRun

variable {W D : String → Prop}

theorem blind_variableText {key : String} (hkey : ¬D key) :
    Blind W D D (variableText key) := by
  refine .readStore (fun ρ => ?_) fun σ ρ hσ => by rw [hσ.text?_eq hkey]
  cases ρ.text? key with
  | some text => exact .pure text
  | none => exact .fail rfl

theorem blind_announce (action : Action) (hdebug : ¬D "debug") :
    Blind W D D (announce action) := by
  refine .readStore (fun ρ => ?_) fun σ ρ hσ => by rw [hσ.flag_eq hdebug]
  cases ρ.flag "debug" with
  | true => exact .log _
  | false => exact .pure ()

theorem blind_setBase {url : String} (hbase : W "base")
    (htier : Text.contains url tierPlaceholder = true → ¬D "tier") :
    Blind W D (fun k => D k ∧ k ≠ "base") (setBase url) := by
  unfold setBase
  split
  · next h => exact .bind (blind_variableText (htier h)) fun _ => .setVariable hbase _
  · exact .setVariable hbase _

theorem blind_pauseFor (text : String) : Blind W D D (pauseFor text) := by
  refine .bind (.orStop fun _ h => ?_) fun ms => ?_
  · exact RunError.endsWorker_of_isOfExecution (isOfExecution_of_pause h)
  cases Clock.pauseOf ms with
  | some pause => exact .sleep pause
  | none => exact .panicWith (by simp [Clock.pauseTooLong])

/-- An instruction on the store, the log and the clock settles the variable that it
writes, provided that the one it reads is settled. -/
theorem blind_execute {i : Instruction} (hi : i.Confined) (wait : WaitPolicy)
    (chain : Option (Chain Handle)) (hwrites : ∀ key, i.writes? = some key → W key)
    (hreads : ∀ key, i.reads? = some key → ¬D key) :
    Blind W D (fun key => D key ∧ i.writes? ≠ some key) (execute wait chain i) := by
  cases hi with
  | setVariable key value =>
      refine .bind ((Blind.setVariable (hwrites key rfl) _).mono fun k hk => ?_) fun _ => .pure _
      exact ⟨hk.1, fun h => hk.2 (Option.some.inj h).symm⟩
  | log message =>
      exact .bind ((Blind.log message).mono fun k hk => ⟨hk, nofun⟩) fun _ => .pure _
  | logVariable key =>
      refine .bind (blind_variableText (hreads key rfl)) fun text => ?_
      exact .bind ((Blind.log text).mono fun k hk => ⟨hk, nofun⟩) fun _ => .pure _
  | baseUrl url =>
      have htier : Text.contains url tierPlaceholder = true → ¬D "tier" := fun h =>
        hreads "tier" (if_pos h)
      refine .bind ((blind_setBase (hwrites _ rfl) htier).mono fun k hk => ?_) fun _ => .pure _
      exact ⟨hk.1, fun h => hk.2 (Option.some.inj h).symm⟩
  | delay ms =>
      exact .bind ((blind_pauseFor ms).mono fun k hk => ⟨hk, nofun⟩) fun _ => .pure _

theorem blind_settle (settings : PageSettings) (left : Nat) :
    Blind W D D (settle settings left) := by
  refine .bind (.sleep _) fun _ => ?_
  split
  · exact .sleep _
  · exact .pure ()

variable {suites : List Suite} {s : Suite} {done after : List Action}

/-- An action of a confined suite. -/
theorem blind_runAction (h : Confined suites) (hs : s ∈ suites) {action : Action}
    (hsplit : s.actions = done ++ action :: after) (wait : WaitPolicy)
    (chain : Option (Chain Handle)) :
    Blind (WrittenBy suites) (Unsettled suites done) (Unsettled suites (done ++ [action]))
      (runAction wait chain action) := by
  have haction : action ∈ s.actions := by simp [hsplit]
  refine .isCancelled (.bind (blind_announce action h.debug_settled) fun _ => ?_)
  cases hi : action.instruction with
  | error e => exact .fail (endsWorker_of_instruction hi)
  | ok i =>
      have hwrites : action.writes? = i.writes? := by simp [Action.writes?, hi]
      have hreads : action.reads? = i.reads? := by simp [Action.reads?, hi]
      refine (blind_execute (Action.confined_of_instruction (h.commands s hs _ haction) hi) wait
        chain ?_ ?_).mono fun key hkey => ?_
      · exact fun key hkey => ⟨s, hs, action, haction, hwrites.trans hkey⟩
      · exact fun key hkey => h.settled hs hsplit (hreads.trans hkey)
      · rw [unsettled_snoc_iff, hwrites]
        exact hkey

/-- Actions of a confined suite, with those of the suite that stand before them done. -/
theorem blind_runActions (h : Confined suites) (hs : s ∈ suites) {actions : List Action}
    (hsplit : s.actions = done ++ (actions ++ after)) (settings : PageSettings)
    (chain : Option (Chain Handle)) :
    Blind (WrittenBy suites) (Unsettled suites done) (Unsettled suites (done ++ actions))
      (runActions settings chain actions) := by
  induction actions generalizing done chain with
  | nil =>
      rw [List.append_nil]
      exact .pure ()
  | cons action rest ih =>
      refine .bind (blind_runAction h hs hsplit settings.wait chain) fun chain => ?_
      refine .bind (blind_settle settings rest.length) fun _ => ?_
      have hstep : s.actions = (done ++ [action]) ++ (rest ++ after) := by simpa using hsplit
      have hrest := ih hstep chain
      rwa [List.append_assoc] at hrest

end PageRun

/-! ## Confined suites -/

/-- What a suite comes to: its verdict, how far its pages came, and its lines in the log. -/
structure Deed where
  outcome : Outcome
  pages : List PageRecord
  lines : List String

/-- A suite run ended as `deed` says, after any time, and its worker can go on. -/
def Deed.Ends (deed : Deed) (suite : Suite) (e : Ending Empty SuiteRun) (_ : Store) : Prop :=
  ∃ ms, e = .value ⟨⟨suite.name, deed.outcome, deed.pages, ms⟩, none⟩

namespace SuiteRun

variable {W : String → Prop} {suites : List Suite} {s : Suite} {done : List Action}
  {records : List PageRecord}

/-- The line that a page begins with. -/
def titleLines (σ : Store) (page : Page) : List String :=
  if σ.flag "debug" then [page.name] else []

theorem goes_announce (page : Page) (σ : Store) :
    Goes W (fun e σ' => ∃ u, e = .value u ∧ σ' = σ) σ (titleLines σ page) (announce page) := by
  unfold titleLines
  refine .readStore ?_
  change Goes W (fun e σ' => ∃ u, e = .value u ∧ σ' = σ) σ _
    (if σ.flag "debug" = true then Task.log page.name else pure () : Task Handle Empty Unit)
  split
  · exact .log (.done ⟨(), rfl, rfl⟩)
  · exact .done ⟨(), rfl, rfl⟩

theorem goes_pass (start : Nat) (σ : Store) :
    Goes W (Deed.Ends ⟨.passed, records, ["Suite Passed"]⟩ s) σ ["Suite Passed"]
      (pass s start records) :=
  .log (.now fun time => .done ⟨time - start, rfl⟩)

/-- The lines of a suite that fails at a page. -/
def failureLines (suite : Suite) (page : Page) (reason : String) : List String :=
  [s!"X Page Failed: {page.name}", s!"X {reason}", s!"X Suite Failed: {suite.name}"]

theorem goes_failAt {page : Page} {rest : List Page} {reason : String} {deed : Deed}
    (houtcome : deed.outcome = .failed (some page.name) reason)
    (hpages : deed.pages = records ++ ⟨page.name, .failed⟩ :: pendingRecords rest) (start : Nat)
    (σ : Store) :
    Goes W (deed.Ends s) σ (failureLines s page reason)
      (failAt s start records page rest reason none) :=
  .log (.log (.log (.now fun time => .done ⟨time - start, by rw [houtcome, hpages]⟩)))

/-- After a page from which the worker can go on, the suite is not the last one. -/
theorem failure?_of_mild {x : Ending RunError Unit} (hx : x.Mild) :
    (x = .value () ∧ failure? x = none) ∨ ∃ reason, failure? x = some (reason, none) := by
  cases x with
  | value u => exact .inl ⟨rfl, rfl⟩
  | failed e =>
      have he : e.endsWorker = false := hx
      exact .inr ⟨e.message, by simp [failure?, he]⟩
  | panicked p => exact .inr ⟨_, rfl⟩

/-- How a suite goes on after a page. -/
def afterPage (settings : PageSettings) (suite : Suite) (start : Nat) (records : List PageRecord)
    (page : Page) (rest : List Page) (x : Ending RunError Unit) : Task Handle Empty SuiteRun :=
  match failure? x with
  | none => runPages settings suite start (records ++ [⟨page.name, .completed⟩]) rest
  | some (reason, fatal) => failAt suite start records page rest reason fatal

/-- The lines of a page come between its name, in a debug run, and what follows it. -/
theorem goes_page {D : String → Prop} {settings : PageSettings} {page : Page} {rest : List Page}
    {start : Nat} {x : Ending RunError Unit} {ρ σ : Store} {lines more : List String}
    {post : Store → Prop} {post' : Ending Empty SuiteRun → Store → Prop}
    (hdebug : ¬D "debug") (hσ : σ.AgreeOff D ρ) (hx : x.Mild)
    (hpage : Goes W (fun e σ' => e = x ∧ post σ') σ lines (page.run settings))
    (hafter : ∀ σ', post σ' →
      Goes W post' σ' more (afterPage settings s start records page rest x)) :
    Goes W post' σ (titleLines ρ page ++ (lines ++ more))
      (runPages settings s start records (page :: rest)) := by
  have hcaught : x.caught = .value x := Ending.caught_eq_value fun hfatal => by
    rw [hfatal] at hx
    exact hx rfl
  have htitle := goes_announce (W := W) page σ
  rw [titleLines, hσ.flag_eq hdebug] at htitle
  refine htitle.bind_value ?_
  rintro _ σ rfl
  refine hpage.ending.bind ?_
  rintro _ σ' ⟨_, ⟨rfl, hσ'⟩, rfl⟩
  rw [hcaught]
  exact hafter σ' hσ'

/-- The remaining pages of a confined suite, with the actions before them done. -/
theorem goes_runPages (h : Confined suites) (hs : s ∈ suites) (settings : PageSettings)
    {pages : List Page} (hsplit : s.actions = done ++ pages.flatMap Page.actions)
    (records : List PageRecord) (ρ : Store) :
    ∃ deed : Deed, ∀ σ : Store, σ.AgreeOff (Unsettled suites done) ρ → ∀ start,
      Goes (WrittenBy suites) (deed.Ends s) σ deed.lines
        (runPages settings s start records pages) := by
  -- the reference store `ρ` goes along with the pages that are completed
  induction pages generalizing done records ρ with
  | nil => exact ⟨⟨.passed, records, ["Suite Passed"]⟩, fun σ _ start => goes_pass start σ⟩
  | cons page rest ih =>
      rw [List.flatMap_cons] at hsplit
      obtain ⟨lines, x, ρ', hx, hpage⟩ := PageRun.blind_runActions h hs hsplit settings none ρ
      rcases failure?_of_mild hx with ⟨rfl, hcompleted⟩ | ⟨reason, hfailed⟩
      · have hstep : s.actions = (done ++ page.actions) ++ rest.flatMap Page.actions := by
          simpa using hsplit
        obtain ⟨deed, hdeed⟩ := ih hstep (records ++ [⟨page.name, .completed⟩]) ρ'
        refine ⟨⟨deed.outcome, deed.pages, titleLines ρ page ++ (lines ++ deed.lines)⟩,
          fun σ hσ start => ?_⟩
        refine goes_page h.debug_settled hσ hx (hpage σ hσ) fun σ' hσ' => ?_
        rw [afterPage, hcompleted]
        exact hdeed σ' (hσ' () rfl) start
      · refine ⟨⟨.failed (some page.name) reason,
          records ++ ⟨page.name, .failed⟩ :: pendingRecords rest,
          titleLines ρ page ++ (lines ++ failureLines s page reason)⟩, fun σ hσ start => ?_⟩
        refine goes_page h.debug_settled hσ hx (hpage σ hσ) fun σ' _ => ?_
        rw [afterPage, hfailed]
        exact goes_failAt rfl rfl start σ'

end SuiteRun

/-- A confined suite comes to one deed, whichever worker runs it and whatever that worker
has run before. -/
theorem Suite.goes_run {suites : List Suite} (h : Confined suites) {s : Suite} (hs : s ∈ suites)
    (settings : PageSettings) (store : Store) :
    ∃ deed : Deed, ∀ σ : Store, σ.AgreeOff (WrittenBy suites) store →
      Goes (WrittenBy suites) (deed.Ends s) σ deed.lines (s.run settings) := by
  have hall : s.actions = [] ++ s.pages.flatMap Page.actions := rfl
  obtain ⟨deed, hdeed⟩ := SuiteRun.goes_runPages h hs settings hall [] store
  refine ⟨deed, fun σ hσ => .now fun start => hdeed σ ?_ start⟩
  exact hσ.mono fun key hkey => unsettled_nil_iff.mpr hkey

/-- From every store that agrees with `store` off the variables that suites write, each suite
comes to its deed. -/
def Deeds (settings : PageSettings) (suites : List Suite) (store : Store)
    (deed : Suite → Deed) : Prop :=
  ∀ s ∈ suites, ∀ σ : Store, σ.AgreeOff (WrittenBy suites) store →
    Goes (WrittenBy suites) ((deed s).Ends s) σ (deed s).lines (s.run settings)

theorem Confined.exists_deeds {suites : List Suite} (h : Confined suites)
    (settings : PageSettings) (store : Store) : ∃ deed, Deeds settings suites store deed := by
  have hdeed : ∀ s : Suite, ∃ deed : Deed, s ∈ suites → ∀ σ : Store,
      σ.AgreeOff (WrittenBy suites) store →
        Goes (WrittenBy suites) (deed.Ends s) σ deed.lines (s.run settings) := by
    intro s
    by_cases hs : s ∈ suites
    · obtain ⟨deed, hdeed⟩ := Suite.goes_run h hs settings store
      exact ⟨deed, fun _ => hdeed⟩
    · exact ⟨⟨.passed, [], []⟩, fun hmem => absurd hmem hs⟩
  choose deed hdeed using hdeed
  exact ⟨deed, hdeed⟩

end BrowserSuite
