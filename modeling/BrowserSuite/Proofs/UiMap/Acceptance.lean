import BrowserSuite.Proofs.UiMap.Contents

/-!
# What is loaded, and which error is reported

Suites are loaded from the files that a path and a filter export choose
(`FileTree.Selects`): those of the keys in the order of the export, or all files of a
directory in the order of their names, or a single file.  Loading succeeds if every chosen
file is sound, and then it gives the suites that are in the files.  Otherwise it reports the
first fault on the way through the suites, through the UI maps of each suite and through the
lines of each UI map (`load_reports_first_fault`).

A tree has a choice of files unless there is an export that cannot be read
(`reads_suiteFiles`).  On the files of the choice, loading is the loop over the suites in
them, so the faults of all files, one after the other, decide how it ends.
-/

namespace BrowserSuite

namespace FileTree

variable {t : FileTree} {path directory : Path} {filterExport : Option Path}

/-! ## The choice of files -/

/-- The suite files that a path names: the files of the keys in an export, all files of a
directory by their names, or the path itself. -/
inductive Selects (t : FileTree) (path directory : Path) : Option Path → List Path → Prop where
  | listed {filterExport : Path} {content : String} (h : t.read filterExport = .ok content) :
      Selects t path directory (some filterExport)
        ((FilterExport.keys content).map fun key => directory.join ⟨key⟩)
  | sorted {found names : List String} (hentry : t.entry path = .ok .directory)
      (hlist : t.list path = .ok found)
      (hperm : names.Perm (found.filter fun name => t.kind? (path.join ⟨name⟩) == some .file))
      (hsorted : names.Pairwise (· ≤ ·)) :
      Selects t path directory none (names.map fun name => path.join ⟨name⟩)
  | single {content : Content} (hentry : t.entry path = .ok (.file content)) :
      Selects t path directory none [path]

/-- There is at most one choice. -/
theorem Selects.unique {files files' : List Path}
    (h : t.Selects path directory filterExport files)
    (h' : t.Selects path directory filterExport files') : files = files' := by
  cases h with
  | listed h =>
      cases h' with
      | listed h' => rw [Except.ok.inj (h.symm.trans h')]
  | sorted hentry hlist hperm hsorted =>
      cases h' with
      | sorted hentry' hlist' hperm' hsorted' =>
          cases hlist.symm.trans hlist'
          have hnames := List.Perm.eq_of_pairwise
            (fun a b _ _ hab hba => String.le_antisymm hab hba) hsorted hsorted'
            (hperm.trans hperm'.symm)
          rw [hnames]
      | single hentry' => cases hentry.symm.trans hentry'
  | single hentry =>
      cases h' with
      | sorted hentry' => cases hentry.symm.trans hentry'
      | single hentry' => rfl

/-- From an export that cannot be read nothing is chosen. -/
theorem Selects.read_ne_error {listing : Path} {files : List Path} {cause : FileError}
    (h : t.Selects path directory (some listing) files) : t.read listing ≠ .error cause := by
  cases h with
  | listed h =>
      rw [h]
      exact nofun

/-- The files of a directory are found, sorted and checked to be files. -/
theorem reads_filesOf (directory : Path) (hentry : t.entry path = .ok .directory) :
    ∃ files, t.Reads (Loading.filesOf path) (.ok files) ∧
      t.Selects path directory none files := by
  obtain ⟨found, hlist⟩ := exists_list hentry
  let sorted := found.mergeSort fun a b => decide (a ≤ b)
  let names := sorted.filter fun name => t.kind? (path.join ⟨name⟩) == some .file
  refine ⟨names.map fun name => path.join ⟨name⟩, ?_, .sorted hentry hlist ?_ ?_⟩
  · have hnames : t.Reads (FileTask.orFail (LoadError.unreadable path)
        (FileTask.request (.list path))) ((t.list path).mapError (.unreadable path)) :=
      .orFail _ rfl
    have hfiles : t.Reads ((sorted.map fun name => path.join ⟨name⟩).filterM fun p =>
        (FileTask.isFile p : FileTask LoadError Bool)) _ := .filterM Reads.isFile _
    rw [List.filter_map] at hfiles
    rw [hlist] at hnames
    exact hnames.after hfiles
  · exact (List.mergeSort_perm found _).filter _
  · have hsorted : sorted.Pairwise fun a b => decide (a ≤ b) = true := by
      refine List.pairwise_mergeSort (fun a b c hab hbc => ?_) (fun a b => ?_) found
      · simp only [decide_eq_true_eq] at hab hbc ⊢
        exact String.le_trans hab hbc
      · simpa using String.le_total a b
    exact (hsorted.imp fun h => of_decide_eq_true h).filter _

/-- Files are chosen unless the export cannot be read. -/
theorem reads_suiteFiles (directory : Path) (filterExport : Option Path) {entry : Entry}
    (hentry : t.entry path = .ok entry) :
    (∃ listing cause, filterExport = some listing ∧ t.read listing = .error cause ∧
      t.Reads (Loading.suiteFiles path directory filterExport)
        (.error (.unreadable listing cause))) ∨
    ∃ files, t.Selects path directory filterExport files ∧
      t.Reads (Loading.suiteFiles path directory filterExport) (.ok files) := by
  cases filterExport with
  | some listing =>
      have hread : t.Reads (Loading.read listing) ((t.read listing).mapError _) := .orFail _ rfl
      have hall := hread.bind (g := fun content => .ok ((FilterExport.keys content).map
        fun key => directory.join ⟨key⟩)) fun content => .pure _
      cases hlisting : t.read listing with
      | error cause => exact .inl ⟨listing, cause, rfl, hlisting, by rwa [hlisting] at hall⟩
      | ok content => exact .inr ⟨_, .listed hlisting, by rwa [hlisting] at hall⟩
  | none =>
      have hkind : t.kind? path = some (Entry.kind entry) := by
        rw [kind?, hentry]
        rfl
      have hdirectory : t.Reads (FileTask.isDirectory path : FileTask LoadError Bool) _ :=
        .isDirectory path
      rw [hkind] at hdirectory
      cases entry with
      | directory =>
          obtain ⟨files, hfiles, hselects⟩ := reads_filesOf directory hentry
          exact .inr ⟨files, hselects, hdirectory.after hfiles⟩
      | file content => exact .inr ⟨_, .single hentry, hdirectory.after (.pure _)⟩

/-! ## The run on the chosen files -/

theorem reads_suiteDirectory (hrun : (t.run (Loading.suiteDirectory path)).1 = .ok directory) :
    t.Reads (Loading.suiteDirectory path) (.ok directory) := by
  have hreads : ∃ x, t.Reads (Loading.suiteDirectory path) x :=
    ⟨_, (Reads.isDirectory path).after (.pure _)⟩
  obtain ⟨x, hx⟩ := hreads
  exact hx.of_run hrun

theorem reads_locateMaps {start name maps : Path}
    (hrun : (t.run (Loading.locateMaps start name)).1 = .ok maps) :
    t.Reads (Loading.locateMaps start name) (.ok maps) := by
  have hreads : ∃ x, t.Reads (Loading.locateMaps start name) x := by
    have hupwards : ∃ paths, t.Reads (Loading.upwards start) (.ok paths) :=
      ⟨_, Reads.after (a := (t.find start).toOption.map pathOf) rfl (.pure _)⟩
    obtain ⟨paths, hpaths⟩ := hupwards
    have hfirst : t.Reads (FileTask.firstOfKind? .directory (paths.map (·.join name)) :
        FileTask LoadError (Option Path)) _ := .firstOfKind? _ _
    revert hfirst
    cases (paths.map (·.join name)).find? fun p => t.kind? p == some .directory with
    | some found => exact fun hfirst => ⟨_, hpaths.after (hfirst.after (.pure found))⟩
    | none => exact fun hfirst => ⟨_, hpaths.after (hfirst.after (.throw _))⟩
  obtain ⟨x, hx⟩ := hreads
  exact hx.of_run hrun

/-- Loading fails for the export or goes through the chosen files. -/
theorem load_cases (filterExport : Option Path) {source : UiMapSource} {entry : Entry}
    {maps : Path} (hentry : t.entry path = .ok entry)
    (hdirectory : (t.run (Loading.suiteDirectory path)).1 = .ok directory)
    (hmaps : (t.run (Loading.locateMaps directory source.directory)).1 = .ok maps) :
    (∃ listing cause, filterExport = some listing ∧ t.read listing = .error cause ∧
      (t.run (source.load path filterExport)).1 = .error (.unreadable listing cause)) ∨
    ∃ files, t.Selects path directory filterExport files ∧
      (t.run (source.load path filterExport)).1 =
        files.mapM (t.suite source.delimiter maps) := by
  have hkind : t.Reads (FileTask.kind? path : FileTask LoadError _) _ := .kind path
  rw [kind?, hentry] at hkind
  have hload : ∀ {x}, t.Reads (Loading.suiteFiles path directory filterExport) x →
      t.Reads (source.load path filterExport)
        (x >>= fun files => files.mapM (t.suite source.delimiter maps)) := by
    intro x hfiles
    refine hkind.after ((reads_suiteDirectory hdirectory).after ?_)
    refine (reads_locateMaps hmaps).after (hfiles.bind fun files => ?_)
    exact .mapM (t.reads_suite source.delimiter maps) files
  rcases reads_suiteFiles directory filterExport hentry with
    ⟨listing, cause, hexport, hlisting, hfiles⟩ | ⟨files, hselects, hfiles⟩
  · exact .inl ⟨listing, cause, hexport, hlisting, congrArg Prod.fst (hload hfiles)⟩
  · exact .inr ⟨files, hselects, congrArg Prod.fst (hload hfiles)⟩

end FileTree

/-! ## The theorem -/

/-- For a path at which something is, and with a directory of UI maps.

Suites are loaded if and only if the files that are to be loaded can be chosen and all of them
are sound: each can be read, and so can each UI map that it lists, and each line that counts
has a known command with enough parameters.  The suites are those in the files, in the order
of the choice; their pages and actions are in the order of the lines and the actions have the
numbers of their lines.

Otherwise the error is that of an export that cannot be read, or the first of all faults of
the chosen files.  If it is about a bad action, it names the UI map and the number of the
first bad line there. -/
theorem load_reports_first_fault (t : FileTree) (source : UiMapSource) (path : Path)
    (filterExport : Option Path) {entry : Entry} {directory maps : Path}
    (hentry : t.entry path = .ok entry)
    (hdirectory : (t.run (Loading.suiteDirectory path)).1 = .ok directory)
    (hmaps : (t.run (Loading.locateMaps directory source.directory)).1 = .ok maps) :
    ((∃ suites, (t.run (source.load path filterExport)).1 = .ok suites) ↔
      ∃ files, t.Selects path directory filterExport files ∧
        ∀ file ∈ files, t.SoundSuite source.delimiter maps file) ∧
    (∀ suites, (t.run (source.load path filterExport)).1 = .ok suites →
      ∃ files, t.Selects path directory filterExport files ∧
        List.Forall₂ (t.IsSuite source.delimiter maps) files suites) ∧
    (∀ e, (t.run (source.load path filterExport)).1 = .error e ↔
      (∃ listing cause, filterExport = some listing ∧ t.read listing = .error cause ∧
        e = .unreadable listing cause) ∨
      ∃ files, t.Selects path directory filterExport files ∧
        (files.flatMap (t.suiteFaults source.delimiter maps)).head? = some e) ∧
    ∀ map cause, (t.run (source.load path filterExport)).1 = .error (.badAction map cause) →
      ∃ content n text, t.read map = .ok content ∧ IsEffectiveLine content n text ∧
        (Action.ofLine text source.delimiter n).mistake? = some cause ∧
        cause.line? = some n ∧
        ∀ m earlier, m < n → IsEffectiveLine content m earlier →
          (Action.ofLine earlier source.delimiter m).Sound := by
  rcases FileTree.load_cases filterExport hentry hdirectory hmaps with
    ⟨listing, cause, rfl, hlisting, hload⟩ | ⟨files, hselects, hload⟩
  · have hnone : ∀ files, ¬ t.Selects path directory (some listing) files :=
      fun files h => h.read_ne_error hlisting
    rw [hload]
    refine ⟨⟨nofun, fun ⟨files, h, _⟩ => absurd h (hnone files)⟩, nofun, fun e => ⟨?_, ?_⟩, nofun⟩
    · rintro ⟨⟩
      exact .inl ⟨listing, cause, rfl, hlisting, rfl⟩
    · rintro (⟨listing', cause', ⟨⟩, hlisting', rfl⟩ | ⟨files, h, -⟩)
      · cases hlisting.symm.trans hlisting'
        rfl
      · exact absurd h (hnone files)
  · have hunique : ∀ {files'}, t.Selects path directory filterExport files' → files' = files :=
      fun h => h.unique hselects
    rw [hload]
    refine ⟨?_, fun suites h => ?_, fun e => ?_, fun map cause h => ?_⟩
    · rw [FileTree.exists_suites_iff]
      refine ⟨fun h => ⟨files, hselects, h⟩, fun ⟨files', hselects', h⟩ => ?_⟩
      rwa [← hunique hselects']
    · exact ⟨files, hselects, (mapM_eq_ok_iff.mp h).imp fun _ _ => FileTree.isSuite_of_suite⟩
    · rw [FileTree.mapM_suite_eq_error_iff]
      constructor
      · exact fun h => .inr ⟨files, hselects, h⟩
      · rintro (⟨listing, cause, rfl, hlisting, -⟩ | ⟨files', hselects', h⟩)
        · exact absurd hlisting hselects.read_ne_error
        · rwa [← hunique hselects']
    · rw [FileTree.mapM_suite_eq_error_iff, List.head?_flatMap] at h
      obtain ⟨file, -, hfile⟩ := List.exists_of_findSome?_eq_some h
      exact (FileTree.exists_of_head?_mapFaults
        (FileTree.exists_of_head?_suiteFaults hfile)).2

/-- Two suites and a directory next to them.  The first suite by name has three UI maps: one
that the other suite has too, one with two bad lines behind lines that are counted only, and
one that is not there. -/
def sharedMaps : FileTree :=
  ⟨[(["suites"], .directory),
    (["suites", "second"], .file (.text "home\n")),
    (["suites", "first"], .file (.text "# pages\r\nhome\r\n\r\n detail\nmissing")),
    (["suites", "old"], .directory),
    (["ui_maps"], .directory),
    (["ui_maps", "home"], .file (.text "open|/\r\nlog|x")),
    (["ui_maps", "detail"], .file (.text "# first\n\r\n nope|1\nclick|id\n"))], []⟩

/-- Of all that is wrong with `sharedMaps`, the unknown command on the third line of a UI map
comes first. -/
theorem load_reports_first_fault_sharedMaps :
    let load := sharedMaps.run ((⟨"|", ⟨"ui_maps"⟩⟩ : UiMapSource).load ⟨"/suites"⟩ none)
    let cause : RunError := .unknownCommand "nope" 3
    load.1 = .error (.badAction ⟨"/ui_maps/detail"⟩ cause) ∧
      ∃ content text, sharedMaps.read ⟨"/ui_maps/detail"⟩ = .ok content ∧
        IsEffectiveLine content 3 text ∧ (Action.ofLine text "|" 3).mistake? = some cause := by
  intro load cause
  have hentry : sharedMaps.entry ⟨"/suites"⟩ = .ok .directory := by decide +kernel
  have hdirectory : (sharedMaps.run (Loading.suiteDirectory ⟨"/suites"⟩)).1 = .ok ⟨"/suites"⟩ := by
    decide +kernel
  have hmaps : (sharedMaps.run (Loading.locateMaps ⟨"/suites"⟩ ⟨"ui_maps"⟩)).1 =
      .ok ⟨"/ui_maps"⟩ := by decide +kernel
  have hlist : sharedMaps.list ⟨"/suites"⟩ = .ok ["second", "first", "old"] := by decide +kernel
  have hselects : sharedMaps.Selects ⟨"/suites"⟩ ⟨"/suites"⟩ none
      (["first", "second"].map fun name => Path.join ⟨"/suites"⟩ ⟨name⟩) :=
    .sorted hentry hlist (by decide +kernel) (by decide +kernel)
  obtain ⟨-, -, herror, hbad⟩ := load_reports_first_fault sharedMaps ⟨"|", ⟨"ui_maps"⟩⟩
    ⟨"/suites"⟩ none hentry hdirectory hmaps
  have hload : load.1 = .error (.badAction ⟨"/ui_maps/detail"⟩ cause) :=
    (herror _).mpr (.inr ⟨_, hselects, by decide +kernel⟩)
  obtain ⟨content, n, text, hread, hline, hmistake, hn, -⟩ := hbad _ _ hload
  cases hn
  exact ⟨hload, content, text, hread, hline, hmistake⟩

end BrowserSuite
