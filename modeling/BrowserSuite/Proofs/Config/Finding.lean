import BrowserSuite.Proofs.Config.Layers
import BrowserSuite.Proofs.Files.Results

/-!
# Which configuration file is read

A configuration is read from the file that is named, or else from the first of the usual
paths at which there is something (`Config.chosen?`).  What the search for it gives is what
that file sets, completed with the defaults (`exists_of_find`).
-/

namespace BrowserSuite.Config

variable {t : FileTree}

/-- Whether there is something at a path. -/
def isThere (t : FileTree) (path : Path) : Bool := (t.entry path).toOption.isSome

/-- The path of the configuration file: the one that is named, or else the first usual one
at which there is something. -/
def chosen? (t : FileTree) (home : Path) (named : Option Path) : Option Path :=
  named <|> (usualPaths home).find? (isThere t)

/-- What the configuration file at a path sets; without a file, nothing is set. -/
def SetsIn (t : FileTree) : Option Path → PartialConfig → Prop
  | none, file => file = {}
  | some path, file => ∃ text, t.read path = .ok text ∧ PartialConfig.ofText? path text = some file

theorem run_firstExisting? (t : FileTree) (paths : List Path) :
    t.run (firstExisting? paths) = (.ok (paths.find? (isThere t)), t) := by
  induction paths with
  | nil => rfl
  | cons path rest ih =>
      have hkind : t.run (FileTask.kind? path : FileTask ConfigError (Option FileKind)) =
          (.ok ((t.entry path).toOption.map FileTree.Entry.kind), t) := rfl
      rw [firstExisting?, FileTree.run_bind, hkind, List.find?_cons]
      simp only [Option.isSome_map]
      change FileTree.run t (if isThere t path then _ else _) = _
      cases isThere t path with
      | true => rfl
      | false => exact ih

theorem run_read (t : FileTree) (path : Path) :
    t.run (FileTask.orFail (.unreadable path) (FileTask.request (.read path))) =
      ((t.read path).mapError (ConfigError.unreadable path), t) := by
  have hrequest : t.run (FileTask.request (.read path) : FileTask ConfigError _) =
      (.ok (t.read path), t) := rfl
  rw [FileTask.orFail, FileTree.run_bind, hrequest]
  cases t.read path <;> rfl

/-- A file that was loaded sets some of the configuration, and the rest are defaults. -/
theorem exists_of_load {path : Path} {config : Config}
    (h : (t.run (load path)).1 = .ok config) :
    ∃ file, SetsIn t (some path) file ∧ config = file.complete := by
  rw [load, FileTree.run_bind, run_read] at h
  cases hread : t.read path with
  | error e =>
      rw [hread] at h
      cases h
  | ok text =>
      rw [hread] at h
      obtain ⟨file, hfile, hconfig⟩ := PartialConfig.exists_of_ofText h
      exact ⟨file, ⟨text, hread, hfile⟩, hconfig⟩

theorem run_find (t : FileTree) (home : Path) (named : Option Path) :
    t.run (find home named) =
      match chosen? t home named with
      | some path => t.run (load path)
      | none => (.ok {}, t) := by
  unfold find
  cases named with
  | some path => rfl
  | none =>
      refine (FileTree.run_bind t _ _).trans ?_
      rw [run_firstExisting?]
      change t.run _ = match (usualPaths home).find? (isThere t) with | some path => _ | none => _
      cases (usualPaths home).find? (isThere t) <;> rfl

/-- What is found sets some of the configuration, and the rest are defaults. -/
theorem exists_of_find {home : Path} {named : Option Path} {config : Config}
    (h : (t.run (find home named)).1 = .ok config) :
    ∃ file, SetsIn t (chosen? t home named) file ∧ config = file.complete := by
  rw [run_find] at h
  cases hchosen : chosen? t home named with
  | none =>
      rw [hchosen] at h
      cases h
      exact ⟨{}, rfl, rfl⟩
  | some path =>
      rw [hchosen] at h
      exact exists_of_load h

end BrowserSuite.Config
