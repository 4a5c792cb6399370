import BrowserSuite.CommandLine.Activity
import BrowserSuite.CommandLine.Offline
import BrowserSuite.Proofs.CommandLine.Flags
import BrowserSuite.Proofs.Config.Finding

/-!
# The settings of a run

What the program does with its surroundings it does by requests, and the request to run
suites carries the configuration and the store with which they are run.  `launches` collects
these from a run of the program, whoever answers its requests; all that is known of the
surroundings is that they hold files (`HasFiles`).

`Config.settled` is the configuration in which every setting has its value from the flags,
else from the environment, else from the file, else its default.  A run is launched with
that configuration, and with the tier in its store that the environment names before the
flags do (`run_settings_in_force`).
-/

namespace BrowserSuite

/-- The value of a setting that a flag, the environment and a file can give: each of them
comes before the next. -/
def inForce {α : Type} (flag environment file : Option α) (default : α) : α :=
  (flag <|> environment <|> file).getD default

/-- Laying one after the other over the default gives the value in force. -/
theorem getD_getD_getD {α : Type} (flag environment file : Option α) (default : α) :
    flag.getD (environment.getD (file.getD default)) = inForce flag environment file default := by
  cases flag with
  | some a => rfl
  | none => cases environment <;> rfl

/-- The configuration in which every setting has the value that is in force. -/
def Config.settled (flags environment : Environment) (file : PartialConfig) : Config :=
  let defaults : Config := {}
  { threadCount :=
      inForce flags.threads environment.threads file.threadCount defaults.threadCount
    actionDelay := file.actionDelay.getD defaults.actionDelay
    pageDelay := file.pageDelay.getD defaults.pageDelay
    waitTimeout :=
      inForce flags.waitTimeout environment.waitTimeout file.waitTimeout defaults.waitTimeout
    attemptDelay := file.attemptDelay.getD defaults.attemptDelay
    logFile := inForce flags.logFile environment.logFile file.logFile defaults.logFile
    delimiter := file.delimiter.getD defaults.delimiter
    uiMapDirectory := file.uiMapDirectory.getD defaults.uiMapDirectory
    driver :=
      { url := inForce flags.driverUrl environment.driverUrl file.driver.url defaults.driver.url
        browser :=
          inForce flags.browser environment.browser file.driver.browser defaults.driver.browser
        headless :=
          inForce flags.headless environment.headless file.driver.headless
            defaults.driver.headless } }

namespace CommandLine

/-! ## What is launched -/

/-- The configuration and the store with which a request runs suites. -/
def Request.launch? : Request → Option (Config × Store)
  | .runSuites config _ store => some (config, store)
  | _ => none

variable {σ α β : Type} {answer : σ → (r : Request) → r.Reply × σ}

/-- The configurations and stores with which a program runs suites. -/
def launches (answer : σ → (r : Request) → r.Reply × σ) (p : Program Request.Reply α) (s : σ) :
    List (Config × Store) :=
  (p.asked answer s).filterMap fun x => x.2.launch?

theorem launches_bind (p : Program Request.Reply α) (f : α → Program Request.Reply β) (s : σ) :
    launches answer (p.bind f) s =
      launches answer p s ++ launches answer (f (p.run answer s).1) (p.run answer s).2 := by
  unfold launches
  rw [Program.asked_bind, List.filterMap_append]

namespace Activity

/-- What a composed activity launches one of its parts launches. -/
theorem mem_launches_bind {x : Activity α} {f : α → Activity β} {s : σ} {l : Config × Store}
    (h : l ∈ launches answer (x >>= f).run s) :
    l ∈ launches answer x.run s ∨
      ∃ a v, Program.run answer x.run s = (.ok a, v) ∧ l ∈ launches answer (f a).run v := by
  have hbind : launches answer (x >>= f).run s = _ := launches_bind x.run _ s
  rw [hbind] at h
  refine (List.mem_append.mp h).imp_right fun hrest => ?_
  rcases hx : Program.run answer x.run s with ⟨e | a, v⟩
  · rw [hx] at hrest
    cases hrest
  · rw [hx] at hrest
    exact ⟨a, v, rfl, hrest⟩

/-- A composed activity that ends with a value has gone through both its parts. -/
theorem exists_of_run_bind {x : Activity α} {f : α → Activity β} {s u : σ} {b : β}
    (h : Program.run answer (x >>= f).run s = (.ok b, u)) :
    ∃ a v, Program.run answer x.run s = (.ok a, v) ∧
      Program.run answer (f a).run v = (.ok b, u) := by
  have hbind : Program.run answer (x >>= f).run s = _ := Program.run_bind answer x.run _ s
  rw [hbind] at h
  rcases hx : Program.run answer x.run s with ⟨e | a, v⟩
  · rw [hx] at h
    cases h
  · rw [hx] at h
    exact ⟨a, v, rfl, h⟩

/-- An activity that launches nothing, whoever answers its requests. -/
def Quiet (x : Activity α) : Prop :=
  ∀ (σ : Type) (answer : σ → (r : Request) → r.Reply × σ) (s : σ), launches answer x.run s = []

/-- What is launched after an activity that launches nothing its second part launches. -/
theorem exists_of_mem_launches {x : Activity α} {f : α → Activity β} {s : σ} {l : Config × Store}
    (hx : Quiet x) (h : l ∈ launches answer (x >>= f).run s) :
    ∃ a v, Program.run answer x.run s = (.ok a, v) ∧ l ∈ launches answer (f a).run v := by
  refine (mem_launches_bind h).resolve_left ?_
  simp [hx σ answer s]

namespace Quiet

theorem pure (a : α) : Quiet (Pure.pure a : Activity α) := fun _ _ _ => rfl

theorem throw (e : Failure) : Quiet (MonadExcept.throw e : Activity α) := fun _ _ _ => rfl

theorem bind {x : Activity α} {f : α → Activity β} (hx : Quiet x) (hf : ∀ a, Quiet (f a)) :
    Quiet (x >>= f) := by
  intro σ answer s
  refine List.eq_nil_iff_forall_not_mem.mpr fun l hl => ?_
  rcases mem_launches_bind hl with h | ⟨a, v, -, h⟩
  · simp [hx σ answer s] at h
  · simp [hf a σ answer v] at h

theorem request {r : Request} (hr : r.launch? = none) : Quiet (Activity.request r) := by
  intro σ answer s
  simp [launches, Activity.request, Program.asked, ExceptT.mk, ExceptT.run, hr]

theorem onFiles {ε : Type} (failure : ε → Failure) (task : FileTask ε α) :
    Quiet (Activity.onFiles failure task) := by
  intro σ answer s
  have hfiles : ∀ {γ : Type} (p : Program FileRequest.Reply γ) (s : σ),
      launches answer (fileProgram p) s = [] := by
    intro γ p
    induction p with
    | done a => exact fun _ => rfl
    | ask r next ih => exact fun s => ih _ _
  refine (launches_bind (fileProgram task.run) _ s).trans ?_
  rw [hfiles]
  rfl

end Quiet

end Activity

/-! ## Files -/

/-- Whoever answers the requests of the program holds files, and answers what is asked about
them by these. -/
structure HasFiles (answer : σ → (r : Request) → r.Reply × σ) (tree : σ → FileTree) : Prop where
  reply : ∀ s r, (answer s (.file r)).1 = ((tree s).answer r).1
  tree : ∀ s r, tree (answer s (.file r)).2 = ((tree s).answer r).2

variable {tree : σ → FileTree}

theorem HasFiles.run_fileProgram (h : HasFiles answer tree) (p : Program FileRequest.Reply α)
    (s : σ) :
    (Program.run answer (Activity.fileProgram p) s).1 =
      (Program.run FileTree.answer p (tree s)).1 := by
  induction p generalizing s with
  | done a => rfl
  | ask r next ih =>
      change (Program.run answer (Activity.fileProgram (next (answer s (.file r)).1)) _).1 =
        (Program.run FileTree.answer (next ((tree s).answer r).1) ((tree s).answer r).2).1
      rw [ih, h.reply, h.tree]

/-- A task on files ends as it does on the files that are held. -/
theorem HasFiles.run_onFiles (h : HasFiles answer tree) {ε : Type} (failure : ε → Failure)
    (task : FileTask ε α) (s : σ) :
    (Program.run answer (Activity.onFiles failure task).run s).1 =
      ((tree s).run task).1.mapError failure := by
  refine (congrArg Prod.fst (Program.run_bind answer (Activity.fileProgram task.run) _ s)).trans ?_
  exact congrArg (Except.mapError failure) (h.run_fileProgram task.run s)

namespace Activity

variable {context : Context}

theorem quiet_configuration (named : Option Path) : Quiet (configuration context named) :=
  (Quiet.onFiles _ _).bind fun _ => .pure _

/-- The configuration of a run without flags. -/
theorem exists_of_configuration (h : HasFiles answer tree) {named : Option Path} {s v : σ}
    {config : Config}
    (hrun : Program.run answer (configuration context named).run s = (.ok config, v)) :
    ∃ file, Config.SetsIn (tree s) (Config.chosen? (tree s) context.home
        (named <|> context.environment.configFile.map Path.mk)) file ∧
      config = context.environment.apply file.complete := by
  obtain ⟨found, u, hfound, happly⟩ := exists_of_run_bind hrun
  cases happly
  have hfind := (h.run_onFiles _ _ s).symm.trans (congrArg Prod.fst hfound)
  obtain ⟨file, hfile, rfl⟩ := Config.exists_of_find (eq_ok_of_mapError_eq_ok hfind)
  exact ⟨file, hfile, rfl⟩

theorem quiet_base (a : RunArguments) : Quiet (base context a) := by
  unfold base
  split
  · exact .pure _
  · exact (Quiet.onFiles _ _).bind fun url => .pure _

theorem quiet_suites (c : Config) (path : Path) (xml : Option Path) : Quiet (suites c path xml) :=
  .onFiles _ _

theorem quiet_addToLog (c : Config) (text : String) : Quiet (addToLog c text) := .onFiles _ _

theorem quiet_print (text : String) : Quiet (print text) := .request rfl

/-- A run is launched with the configuration of its flags over the others, and with the tier
of the run in its store. -/
theorem exists_of_launches_runSuites {a : RunArguments} {s : σ} {config : Config} {store : Store}
    (hlaunch : (config, store) ∈ launches answer (runSuites context a).run s) :
    ∃ before v base, Program.run answer (configuration context a.config).run s = (.ok before, v) ∧
      config = a.apply before ∧ store = startingStore context a base := by
  obtain ⟨before, v, hbefore, h⟩ := exists_of_mem_launches (quiet_configuration _) hlaunch
  refine ⟨before, v, ?_⟩
  cases hfault : (a.apply before).fault? with
  | some fault =>
      simp only [hfault] at h
      obtain ⟨_, _, hthrow, -⟩ := exists_of_mem_launches (.throw _) h
      cases hthrow
  | none =>
      simp only [hfault] at h
      obtain ⟨base, v, -, h⟩ := exists_of_mem_launches (quiet_base a) h
      obtain ⟨suites, v, -, h⟩ := exists_of_mem_launches (quiet_suites _ _ _) h
      obtain ⟨now, v, -, h⟩ := exists_of_mem_launches (.request rfl) h
      obtain ⟨_, v, -, h⟩ := exists_of_mem_launches (quiet_addToLog _ _) h
      rcases mem_launches_bind h with h | ⟨report, v, -, h⟩
      · cases h with
        | head => exact ⟨base, hbefore, rfl, rfl⟩
        | tail _ h => cases h
      · obtain ⟨_, v, -, h⟩ := exists_of_mem_launches (quiet_print _) h
        obtain ⟨_, v, -, h⟩ := exists_of_mem_launches (quiet_addToLog _ _) h
        cases h

theorem quiet_showConfig (named : Option Path) (environment : Bool) :
    Quiet (showConfig context named environment) := by
  have hrest : Quiet (do print ((← configuration context named).yaml ++ "\n")) :=
    (quiet_configuration named).bind fun _ => quiet_print _
  cases environment with
  | true => exact (quiet_print _).bind fun _ => hrest
  | false => exact hrest

theorem quiet_initConfig (path : Path) (force : Bool) : Quiet (initConfig path force) := by
  refine (Quiet.onFiles _ _).bind fun found => ?_
  change Quiet (if found.isSome && !force then _ else _)
  split
  · exact (Quiet.throw _).bind fun _ => (Quiet.onFiles _ _).bind fun _ => quiet_print _
  · exact (Quiet.onFiles _ _).bind fun _ => quiet_print _

/-- Only a run launches anything. -/
theorem exists_of_launches_ofJob {job : Job} {s : σ} {l : Config × Store}
    (hlaunch : l ∈ launches answer (ofJob context job).run s) : ∃ a, job = .run a := by
  have hquiet : (∃ a, job = .run a) ∨ Quiet (ofJob context job) := by
    cases job with
    | run a => exact .inl ⟨a, rfl⟩
    | check a =>
        refine .inr (.bind (.bind (quiet_configuration _) fun config => ?_) fun _ => .pure _)
        exact (quiet_suites _ _ _).bind fun suites => quiet_print _
    | showConfig named environment =>
        exact .inr (.bind (quiet_showConfig named environment) fun _ => .pure _)
    | initConfig path force =>
        exact .inr (.bind (quiet_initConfig path force) fun _ => .pure _)
  refine hquiet.resolve_right fun hquiet => ?_
  simp [hquiet σ answer s] at hlaunch

end Activity

/-! ## The settings in force -/

/-- What the program launches the run of its job launches. -/
theorem exists_of_launches_program {context : Context} {words : List String} {s : σ}
    {l : Config × Store} (hlaunch : l ∈ launches answer (program context words) s) :
    ∃ args a, Arguments.ofWords words = .ok args ∧ args.job = .run a ∧
      l ∈ launches answer (Activity.runSuites context a).run s := by
  unfold program at hlaunch
  split at hlaunch
  · rename_i e hwords
    cases e <;> cases hlaunch
  · rename_i args hwords
    have hjob : l ∈ launches answer (Activity.ofJob context args.job).run s := by
      refine (List.mem_append.mp (launches_bind (Activity.ofJob context args.job).run _ s ▸
        hlaunch)).resolve_right ?_
      exact List.not_mem_nil
    obtain ⟨a, ha⟩ := Activity.exists_of_launches_ofJob hjob
    rw [ha] at hjob
    exact ⟨args, a, hwords, ha, hjob⟩

/-- The flags of a run, laid over the settings of the environment and these over those of a
file, give every setting the value in force. -/
theorem RunArguments.Of.apply_eq_settled {a : RunArguments} {g : Given} (h : a.Of g)
    (environment : Environment) (file : PartialConfig) :
    a.apply (environment.apply file.complete) = Config.settled g.layer environment file := by
  have hheadless (default : Bool) : (a.headless || environment.headless.getD default) =
      g.layer.headless.getD (environment.headless.getD default) := by
    rw [h.headless, Given.layer]
    cases Given.has g .headless <;> rfl
  have hwait : g.layer.waitTimeout = none := rfl
  have hbrowser : g.layer.browser = none := rfl
  simp only [apply, Environment.apply, PartialConfig.complete, PartialDriver.complete,
    Config.settled, h.threads, h.driverUrl, h.logFile, hheadless, hwait, hbrowser,
    ← getD_getD_getD, Option.getD_none]

theorem text?_tier_startingStore (context : Context) (a : RunArguments) (base : String) :
    (Activity.startingStore context a base).text? "tier" = some (Activity.tier context a) := by
  simp [Activity.startingStore, Store.ofMembers, Store.text?, Store.get?_set_of_ne, Store.textOf]

/-- The tier of a run is the one in force unless the flags and the environment name two. -/
theorem tier_eq_inForce_iff {context : Context} {a : RunArguments} {g : Given} (h : a.Of g) :
    Activity.tier context a = inForce g.layer.tier context.environment.tier none standardTier ↔
      ∀ flag named, g.layer.tier = some flag → context.environment.tier = some named →
        flag = named := by
  rw [Activity.tier, h.tier]
  cases g.layer.tier <;> cases context.environment.tier <;> simp [inForce, eq_comm]

/-- Whatever runs the program launches, it launches with every setting of the configuration
in force: the file of the configuration is the one that the flags name, or else the
environment, or else the first usual one, and of the flags, the environment and that file the
first that gives a setting decides it.  The tier in the store is the one in force exactly if
the flags and the environment do not name two. -/
theorem run_settings_in_force (hfiles : HasFiles answer tree) (exported : List (String × String))
    (home : Path) (words : List String) (s : σ) {config : Config} {store : Store}
    (hlaunch : (config, store) ∈
      launches answer (program ⟨.ofVariables exported, home⟩ words) s) :
    let environment := Environment.ofVariables exported
    ∃ g file, flags words = .ok g ∧
      (∀ text, g.lookup .threads = some text →
        ∃ n, Number.unsigned? (Nat.pow 2 64) text = some n ∧ g.layer.threads = some n) ∧
      Config.SetsIn (tree s)
        (Config.chosen? (tree s) home
          ((g.layer.configFile <|> environment.configFile).map Path.mk)) file ∧
      config = Config.settled g.layer environment file ∧
      (store.text? "tier" = some (inForce g.layer.tier environment.tier none standardTier) ↔
        ∀ flag named, g.layer.tier = some flag → environment.tier = some named → flag = named) := by
  intro environment
  obtain ⟨args, a, hwords, hjob, hrun⟩ := exists_of_launches_program hlaunch
  obtain ⟨g, hflags, hof⟩ := exists_flags_of_words hwords hjob
  obtain ⟨before, v, base, hbefore, rfl, rfl⟩ := Activity.exists_of_launches_runSuites hrun
  obtain ⟨file, hfile, rfl⟩ := Activity.exists_of_configuration hfiles hbefore
  refine ⟨g, file, hflags, fun text => threads_layer_of_flags hflags, ?_,
    hof.apply_eq_settled environment file, ?_⟩
  · have hnamed : (a.config <|> environment.configFile.map Path.mk) =
        (g.layer.configFile <|> environment.configFile).map Path.mk := by
      rw [hof.config]
      cases g.layer.configFile <;> rfl
    rw [← hnamed]
    exact hfile
  · rw [text?_tier_startingStore, Option.some_inj]
    exact tier_eq_inForce_iff hof

/-- Surroundings that hold files.  Every run there is one without a browser. -/
def onTree (t : FileTree) : (r : Request) → r.Reply × FileTree
  | .file r => t.answer r
  | .print _ => ((), t)
  | .now => (⟨0, 0⟩, t)
  | .runSuites config suites store => (offlineReport config suites store ⟨0, 0⟩, t)

theorem hasFiles_onTree : HasFiles onTree id where
  reply _ _ := rfl
  tree _ _ := rfl

/-- A suite with an empty UI map, and a configuration file that sets the directory of the UI
maps, the number of workers and the log file. -/
def configured : FileTree :=
  ⟨[(["maps"], .directory), (["maps", "home"], .file (.text "")),
    (["login"], .file (.text "home\n")),
    (["settings.yaml"],
      .file (.text "ui_map_directory: maps\nthread_count: 2\nlog_file: /results\n"))], []⟩

/-- A run of that suite with that file, on a tier. -/
def stagingRun : List String :=
  ["run", "-s", "/login", "-b", "http://x", "-c", "/settings.yaml", "-t", "staging", "--headless"]

/-- The environment changes the number of workers that the file sets, but not its log file;
the flags set the tier, and that there is no window. -/
theorem run_settings_in_force_staging :
    let environment := Environment.ofVariables
      [("UIMAP_RUNNER_THREADS", "3"), ("UIMAP_RUNNER_HEADLESS", "no")]
    ∃ config store g file,
      (config, store) ∈ launches onTree (program ⟨environment, ⟨"/home"⟩⟩ stagingRun) configured ∧
      flags stagingRun = .ok g ∧ config = Config.settled g.layer environment file ∧
      config.threadCount = 3 ∧ config.logFile = "/results" ∧ config.driver.headless = true ∧
      store.text? "tier" = some "staging" := by
  intro environment
  have hlaunches : (launches onTree (program ⟨environment, ⟨"/home"⟩⟩ stagingRun) configured).map
      (fun l => (l.1.threadCount, l.1.logFile, l.1.driver.headless, l.2.text? "tier")) =
        [(3, "/results", true, some "staging")] := by
    decide +kernel
  obtain ⟨⟨config, store⟩, hsingle, hvalues⟩ := List.map_eq_singleton_iff.mp hlaunches
  have hlaunch : (config, store) ∈
      launches onTree (program ⟨environment, ⟨"/home"⟩⟩ stagingRun) configured :=
    hsingle ▸ List.mem_singleton_self _
  obtain ⟨g, file, hflags, -, -, hconfig, -⟩ :=
    run_settings_in_force hasFiles_onTree _ _ _ _ hlaunch
  simp only [Prod.mk.injEq] at hvalues
  obtain ⟨hthreads, hlog, hheadless, htier⟩ := hvalues
  exact ⟨config, store, g, file, hlaunch, hflags, hconfig, hthreads, hlog, hheadless, htier⟩

/-- The tier of the environment comes before that of the flags. -/
theorem environment_overrides_tier_flag :
    let environment := Environment.ofVariables [("UIMAP_RUNNER_TIER", "prod")]
    ∃ g config store, flags stagingRun = .ok g ∧
      (config, store) ∈ launches onTree (program ⟨environment, ⟨"/home"⟩⟩ stagingRun) configured ∧
      inForce g.layer.tier environment.tier none standardTier = "staging" ∧
      store.text? "tier" = some "prod" := by
  intro environment
  have hflags : (flags stagingRun).toOption =
      some [(.suite, "/login"), (.base, "http://x"), (.config, "/settings.yaml"),
        (.tier, "staging"), (.headless, "")] := by
    decide +kernel
  have hlaunches : (launches onTree (program ⟨environment, ⟨"/home"⟩⟩ stagingRun) configured).map
      (fun l => l.2.text? "tier") = [some "prod"] := by
    decide +kernel
  obtain ⟨⟨config, store⟩, hlaunch, htier⟩ := List.map_eq_singleton_iff.mp hlaunches
  exact ⟨_, config, store, eq_ok_of_toOption_eq_some hflags, hlaunch ▸ List.mem_singleton_self _,
    by decide +kernel, htier⟩

end CommandLine

end BrowserSuite
