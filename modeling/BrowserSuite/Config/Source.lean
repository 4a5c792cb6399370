import BrowserSuite.Config.Config

/-!
# Reading a configuration

A configuration is a group of named settings, one of them a group itself.  How
a number, a text, a truth value or a group is written depends on the format of
the file, so a format is given by how it reads these; which settings there are
is the same for all.

A setting that is not given keeps its default, and one that is not known is
passed over.
-/

namespace BrowserSuite

/-- How values are read in `m`, which knows where to read.  Every reading is told
the names on the way to the value and what is expected there; a value that is
something else is described by the error. -/
structure Source (m : Type → Type) where
  /-- A whole number of 64 bits. -/
  natural : List String → String → m Nat
  text : List String → m String
  truth : List String → m Bool
  /-- A group of settings with some names, each at most once.  They are taken over
  in the order in which they are written. -/
  group {S : Type} : List String → String → List String → S → (S → String → m S) → m S

namespace Config

variable {m : Type → Type} [Monad m]

/-- The settings of the driver, in the order in which they are written. -/
def driverNames : List String := ["url", "browser", "headless"]

/-- The settings, in the order in which they are written. -/
def names : List String :=
  ["thread_count", "action_delay_ms", "page_delay_ms", "wait_timeout_secs", "attempt_delay_ms",
    "log_file", "delimiter", "ui_map_directory", "webdriver"]

/-- Takes over one setting of the driver. -/
def setDriver (source : Source m) (d : DriverConfig) (name : String) : m DriverConfig := do
  let path := ["webdriver", name]
  match name with
  | "url" => return { d with url := ← source.text path }
  | "browser" => return { d with browser := ← source.text path }
  | "headless" => return { d with headless := ← source.truth path }
  | _ => return d

/-- Takes over one setting. -/
def setMember (source : Source m) (c : Config) (name : String) : m Config := do
  let path := [name]
  match name with
  | "thread_count" => return { c with threadCount := ← source.natural path "usize" }
  | "action_delay_ms" => return { c with actionDelay := ← source.natural path "u64" }
  | "page_delay_ms" => return { c with pageDelay := ← source.natural path "u64" }
  | "wait_timeout_secs" => return { c with waitTimeout := ← source.natural path "u64" }
  | "attempt_delay_ms" => return { c with attemptDelay := ← source.natural path "u64" }
  | "log_file" => return { c with logFile := ← source.text path }
  | "delimiter" => return { c with delimiter := ← source.text path }
  | "ui_map_directory" => return { c with uiMapDirectory := ← source.text path }
  | "webdriver" =>
    return { c with
      driver := ← source.group path "struct WebDriverConfig" driverNames {} (setDriver source) }
  | _ => return c

/-- Reads a configuration. -/
def ofSource (source : Source m) : m Config :=
  source.group [] "struct AppConfig" names {} (setMember source)

end Config

end BrowserSuite
