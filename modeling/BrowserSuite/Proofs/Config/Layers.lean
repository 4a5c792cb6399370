import BrowserSuite.Config.File
import BrowserSuite.Proofs.Program.Failing

/-!
# What a configuration file sets

A configuration that was read does not tell which of its settings the file has set and which
are defaults.  A `PartialConfig` does: it is read from the same values by the same source,
and has a value where the file has one.

For this to say something about the configuration, reading a group must not depend on the
record that is built from it (`Source.Natural`).  That holds for both formats, and it follows
that a configuration is the partial one completed with the defaults (`ofSource_eq_complete`).
-/

namespace BrowserSuite

/-! ## Partial configurations -/

/-- What is set about the driver. -/
structure PartialDriver where
  url : Option String := none
  browser : Option String := none
  headless : Option Bool := none
  deriving DecidableEq, Repr, Inhabited

/-- What is set of a configuration. -/
structure PartialConfig where
  threadCount : Option Nat := none
  actionDelay : Option Nat := none
  pageDelay : Option Nat := none
  waitTimeout : Option Nat := none
  attemptDelay : Option Nat := none
  logFile : Option String := none
  delimiter : Option String := none
  uiMapDirectory : Option String := none
  driver : PartialDriver := {}
  deriving DecidableEq, Repr, Inhabited

/-- What is set, and the defaults for the rest. -/
def PartialDriver.complete (d : PartialDriver) : DriverConfig :=
  let defaults : DriverConfig := {}
  { url := d.url.getD defaults.url
    browser := d.browser.getD defaults.browser
    headless := d.headless.getD defaults.headless }

namespace PartialConfig

/-- What is set, and the defaults for the rest. -/
def complete (c : PartialConfig) : Config :=
  let defaults : Config := {}
  { threadCount := c.threadCount.getD defaults.threadCount
    actionDelay := c.actionDelay.getD defaults.actionDelay
    pageDelay := c.pageDelay.getD defaults.pageDelay
    waitTimeout := c.waitTimeout.getD defaults.waitTimeout
    attemptDelay := c.attemptDelay.getD defaults.attemptDelay
    logFile := c.logFile.getD defaults.logFile
    delimiter := c.delimiter.getD defaults.delimiter
    uiMapDirectory := c.uiMapDirectory.getD defaults.uiMapDirectory
    driver := c.driver.complete }

variable {m : Type → Type} [Monad m]

/-- Takes over one setting of the driver. -/
def setDriver (source : Source m) (d : PartialDriver) (name : String) : m PartialDriver := do
  let path := ["webdriver", name]
  match name with
  | "url" => return { d with url := some (← source.text path) }
  | "browser" => return { d with browser := some (← source.text path) }
  | "headless" => return { d with headless := some (← source.truth path) }
  | _ => return d

/-- Takes over one setting. -/
def setMember (source : Source m) (c : PartialConfig) (name : String) : m PartialConfig := do
  let path := [name]
  match name with
  | "thread_count" => return { c with threadCount := some (← source.natural path "usize") }
  | "action_delay_ms" => return { c with actionDelay := some (← source.natural path "u64") }
  | "page_delay_ms" => return { c with pageDelay := some (← source.natural path "u64") }
  | "wait_timeout_secs" => return { c with waitTimeout := some (← source.natural path "u64") }
  | "attempt_delay_ms" => return { c with attemptDelay := some (← source.natural path "u64") }
  | "log_file" => return { c with logFile := some (← source.text path) }
  | "delimiter" => return { c with delimiter := some (← source.text path) }
  | "ui_map_directory" => return { c with uiMapDirectory := some (← source.text path) }
  | "webdriver" =>
    return { c with
      driver := ← source.group path "struct WebDriverConfig" Config.driverNames {}
        (setDriver source) }
  | _ => return c

/-- Reads what is set of a configuration. -/
def ofSource (source : Source m) : m PartialConfig :=
  source.group [] "struct AppConfig" Config.names {} (setMember source)

end PartialConfig

/-! ## Sources -/

/-- How a group is read does not depend on the record that is built from it. -/
def Source.Natural {m : Type → Type} [Monad m] (source : Source m) : Prop :=
  ∀ {S T : Type} (φ : S → T) (path : List String) (expected : String) (names : List String)
    (initial : S) (member : S → String → m S) (member' : T → String → m T),
    (∀ s name, member' (φ s) name = φ <$> member s name) →
      source.group path expected names (φ initial) member' =
        φ <$> source.group path expected names initial member

namespace PartialConfig

variable {m : Type → Type} [Monad m] [LawfulMonad m] {source : Source m}

theorem setDriver_complete (d : PartialDriver) (name : String) :
    Config.setDriver source d.complete name =
      PartialDriver.complete <$> setDriver source d name := by
  unfold Config.setDriver setDriver
  split <;> simp [PartialDriver.complete]

theorem setMember_complete (h : source.Natural) (c : PartialConfig) (name : String) :
    Config.setMember source c.complete name = complete <$> setMember source c name := by
  unfold Config.setMember setMember
  split
  case h_9 =>
    have hdriver := h PartialDriver.complete ["webdriver"] "struct WebDriverConfig"
      Config.driverNames {} (setDriver source) (Config.setDriver source) setDriver_complete
    refine (congrArg (· >>= fun d => pure { c.complete with driver := d }) hdriver).trans ?_
    simp [complete]
  all_goals simp [complete]

/-- A configuration is what is set of it, completed with the defaults. -/
theorem ofSource_eq_complete (h : source.Natural) :
    Config.ofSource source = complete <$> ofSource source :=
  h complete [] "struct AppConfig" Config.names {} (setMember source) (Config.setMember source)
    (setMember_complete h)

end PartialConfig

/-! ## JSON -/

namespace Config.JsonReading

variable {S T : Type} {names : List String} {member : S → String → JsonReading S}
  {member' : T → String → JsonReading T} {φ : S → T}

theorem map_refuse (problem : String) : φ <$> (refuse problem : JsonReading S) = refuse problem :=
  rfl

theorem map_mismatch (expected : String) :
    φ <$> (mismatch expected : JsonReading S) = mismatch expected := by
  unfold mismatch
  simp only [map_bind]
  refine bind_congr fun c => ?_
  split <;> simp [map_refuse]

theorem members_map (h : ∀ s name, member' (φ s) name = φ <$> member s name) (fuel : Nat)
    (met : List String) (found : S) :
    members names member' fuel met (φ found) = φ <$> members names member fuel met found := by
  induction fuel generalizing met found with
  | zero => simp [members]
  | succ fuel ih =>
      simp only [members, h, map_bind]
      refine bind_congr fun more => ?_
      cases more with
      | false => simp
      | true =>
          simp only [if_true, map_bind]
          refine bind_congr fun name => ?_
          split
          · simp [ih]
          · split
            · simp [map_refuse]
            · simp [ih]

theorem items_map (h : ∀ s name, member' (φ s) name = φ <$> member s name) (isFirst : Bool)
    (names : List String) (found : S) :
    items member' isFirst names (φ found) = φ <$> items member isFirst names found := by
  induction names generalizing isFirst found with
  | nil => simp [items]
  | cons name names ih =>
      simp only [items, h, map_bind]
      refine bind_congr fun more => ?_
      cases more <;> simp [ih]

end Config.JsonReading

open Config.JsonReading in
theorem natural_jsonSource : Config.jsonSource.Natural := by
  intro S T φ path expected names initial member member' h
  change Config.JsonReading.group expected names (φ initial) member' =
    φ <$> Config.JsonReading.group expected names initial member
  unfold Config.JsonReading.group
  simp only [map_bind]
  refine bind_congr fun c => ?_
  split
  · simp [members_map h]
  · simp [items_map h]
  · exact (map_mismatch expected).symm

/-! ## YAML -/

namespace Config.YamlReading

variable {S T : Type} {names path : List String} {member : S → String → YamlReading S}
  {member' : T → String → YamlReading T} {φ : S → T}

theorem map_mismatch (expected : String) :
    φ <$> (mismatch path expected : YamlReading S) = mismatch path expected := by
  unfold mismatch
  simp only [map_bind]
  refine bind_congr fun n => ?_
  cases n <;> rfl

theorem within_map (reading : YamlReading S) (n : Yaml.Node) :
    (φ <$> reading).within n = φ <$> reading.within n := rfl

theorem members_map (h : ∀ s name, member' (φ s) name = φ <$> member s name) (mark : Yaml.Mark)
    (ms : List (Yaml.Node × Yaml.Node)) (met : List String) (found : S) :
    members path names mark member' ms met (φ found) =
      φ <$> members path names mark member ms met found := by
  induction ms generalizing met found with
  | nil => simp [members]
  | cons m ms ih =>
      obtain ⟨key, value⟩ := m
      simp only [members, h, map_bind, within_map]
      refine bind_congr fun name => ?_
      split
      · cases value.fault? with
        | some fault => rfl
        | none => exact ih _ _
      · split
        · rfl
        · simp [ih]

end Config.YamlReading

open Config.YamlReading in
theorem natural_yamlSource : Config.yamlSource.Natural := by
  intro S T φ path expected names initial member member' h
  change Config.YamlReading.group path expected names (φ initial) member' =
    φ <$> Config.YamlReading.group path expected names initial member
  unfold Config.YamlReading.group
  simp only [map_bind]
  refine bind_congr fun n => ?_
  split
  · exact members_map h _ _ _ _
  · split
    · simp
    · exact (map_mismatch expected).symm
  · exact (map_mismatch expected).symm

/-! ## Files -/

/-- What the text of a file sets. -/
def PartialConfig.ofText? (path : Path) (text : String) : Option PartialConfig :=
  if Config.isYaml path then ((ofSource Config.yamlSource).run (Yaml.Node.read text).1).toOption
  else ((ofSource Config.jsonSource).run' text.toList).toOption

/-- What is read before something else is checked. -/
theorem Config.JsonReading.run'_of_checked {α : Type} {reading : JsonReading α}
    {check : JsonReading Unit} {text : List Char} {a : α}
    (h : (do let a ← reading; check; pure a : JsonReading α).run' text = .ok a) :
    reading.run' text = .ok a := by
  rw [StateT.run'_eq, StateT.run_bind] at h
  obtain ⟨ended, hend, rfl⟩ := exists_of_map_eq_ok h
  obtain ⟨read, hread, hend⟩ := exists_of_bind_eq_ok hend
  rw [StateT.run_bind] at hend
  obtain ⟨checked, -, hend⟩ := exists_of_bind_eq_ok hend
  cases hend
  rw [StateT.run'_eq, hread]
  rfl

/-- What a JSON text stands for is read at its start. -/
theorem Config.run_of_ofJson {text : String} {config : Config}
    (h : Config.ofJson text = .ok config) :
    (ofSource jsonSource).run' text.toList = .ok config := by
  unfold Config.ofJson at h
  simp only at h
  split at h
  · rename_i config' hrun
    cases h
    exact JsonReading.run'_of_checked hrun
  · cases h

/-- What a YAML text stands for is read at its root. -/
theorem Config.run_of_ofYaml {text : String} {config : Config}
    (h : Config.ofYaml text = .ok config) :
    (ofSource yamlSource).run (Yaml.Node.read text).1 = .ok config := by
  obtain ⟨read, hread, hbehind⟩ := exists_of_bind_eq_ok h
  split at hbehind
  · cases hbehind
  · cases hbehind
    exact hread

/-- A configuration that can be used is the one that was read. -/
theorem Config.eq_ok_of_usable {ε : Type} {reading : Except ε Config} {wrap : ε → ConfigError}
    {config : Config}
    (h : (do
      let config ← reading.mapError wrap
      match config.fault? with
      | some fault => throw (.unusable fault)
      | none => pure config) = Except.ok config) :
    reading = .ok config := by
  obtain ⟨read, hread, husable⟩ := exists_of_bind_eq_ok h
  split at husable
  · cases husable
  · cases husable
    exact eq_ok_of_mapError_eq_ok hread

/-- A file that gives a configuration has set some of it, and the rest are defaults. -/
theorem PartialConfig.exists_of_ofText {path : Path} {text : String} {config : Config}
    (h : Config.ofText path text = .ok config) :
    ∃ file, PartialConfig.ofText? path text = some file ∧ config = file.complete := by
  unfold Config.ofText at h
  unfold ofText?
  by_cases hformat : Config.isYaml path = true
  · rw [if_pos hformat] at h ⊢
    have hread := Config.run_of_ofYaml (Config.eq_ok_of_usable h)
    rw [ofSource_eq_complete natural_yamlSource, ReaderT.run_map] at hread
    obtain ⟨file, hfile, rfl⟩ := exists_of_map_eq_ok hread
    exact ⟨file, by rw [hfile]; rfl, rfl⟩
  · rw [if_neg hformat] at h ⊢
    have hread := Config.run_of_ofJson (Config.eq_ok_of_usable h)
    rw [ofSource_eq_complete natural_jsonSource, StateT.run'_eq, StateT.run_map] at hread
    obtain ⟨_, hmap, rfl⟩ := exists_of_map_eq_ok hread
    obtain ⟨file, hfile, rfl⟩ := exists_of_map_eq_ok hmap
    exact ⟨file.1, by rw [StateT.run'_eq, hfile]; rfl, rfl⟩

end BrowserSuite
