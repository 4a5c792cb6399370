import BrowserSuite.Proofs.Files.Reading
import BrowserSuite.Proofs.Text.Lines
import BrowserSuite.UiMap.Loading

/-!
# What suite files and UI maps hold

The content of the files decides what a suite file is loaded as.  `FileTree.IsPage` and
`FileTree.IsSuite` say what that is: one action for each line of a UI map that counts, one
page for each such line of a suite file.  `FileTree.mapFaults` and `FileTree.suiteFaults` list
all that is wrong with the files, from the first line to the last and through every UI map
that a line names, without stopping anywhere.

Reading a page or a suite stops at the first fault.  So it reports the head of the list of
faults (`fault?_page`, `fault?_suite`), and if the list is empty it has a value, which is the
page or the suite in the files (`isPage_of_page`, `isSuite_of_suite`).
-/

namespace BrowserSuite

/-! ## Lines -/

/-- An action that names a command and has enough parameters for it. -/
def Action.Sound (a : Action) : Prop := ∃ c, a.command? = some c ∧ c.arity ≤ a.params.length

/-- What is wrong with an action, if anything. -/
def Action.mistake? (a : Action) : Option RunError :=
  match a.command? with
  | none => some (.unknownCommand a.command a.line)
  | some c =>
    if c.arity ≤ a.params.length then none
    else some (.arity a.command c.arity a.params.length a.line)

/-- The line that an error is about. -/
def RunError.line? : RunError → Option Nat
  | arity _ _ _ line | unknownCommand _ line => some line
  | _ => none

namespace Action

@[simp] theorem line_ofLine (text delimiter : String) (n : Nat) :
    (ofLine text delimiter n).line = n := by
  unfold ofLine
  split <;> rfl

variable {a : Action}

theorem mistake?_eq_none_iff : a.mistake? = none ↔ a.Sound := by
  unfold mistake? Sound
  cases a.command? <;> simp

/-- A mistake is reported with the line of the action. -/
theorem line?_of_mistake? {cause : RunError} (h : a.mistake? = some cause) :
    cause.line? = some a.line := by
  unfold mistake? at h
  split at h
  · cases h
    rfl
  · split_ifs at h
    cases h
    rfl

/-- The check of an action finds its mistake. -/
theorem fault?_instruction : fault? a.instruction = a.mistake? := by
  unfold instruction mistake?
  cases a.command? with
  | none => rfl
  | some c =>
      have hparams := Instruction.isSome_ofParams? c a.params
      cases hi : Instruction.ofParams? c a.params <;> simp_all [fault?]

end Action

section CheckedActions

variable {delimiter : String} {lines : List (Nat × String)}

/-- The actions on some lines. -/
def actionsOf (delimiter : String) (lines : List (Nat × String)) : List Action :=
  lines.map fun l => Action.ofLine l.2 delimiter l.1

theorem fault?_checkedActions :
    fault? (checkedActions delimiter lines) =
      ((actionsOf delimiter lines).filterMap Action.mistake?).head? := by
  have hline : ∀ a : Action, fault? (a.instruction >>= fun _ => pure a) = a.mistake? := by
    intro a
    rw [← Action.fault?_instruction]
    cases a.instruction <;> rfl
  unfold checkedActions actionsOf
  rw [fault?_mapM, List.head?_filterMap, List.findSome?_map]
  exact congrArg (List.findSome? · lines) (funext fun l => hline _)

theorem eq_actionsOf_of_checkedActions {actions : List Action}
    (h : checkedActions delimiter lines = .ok actions) : actions = actionsOf delimiter lines := by
  have hall : List.Forall₂ (fun l action => Action.ofLine l.2 delimiter l.1 = action)
      lines actions := by
    refine (mapM_eq_ok_iff.mp h).imp fun l action hline => ?_
    obtain ⟨i, -, haction⟩ := exists_of_bind_eq_ok hline
    cases haction
    rfl
  rw [← List.forall₂_map_left_iff (R := Eq), List.forall₂_eq_eq_eq] at hall
  exact hall.symm

/-- The first mistake is that of the first bad line. -/
theorem exists_first_bad_line {cause : RunError} (hsorted : lines.Pairwise (·.1 < ·.1))
    (h : ((actionsOf delimiter lines).filterMap Action.mistake?).head? = some cause) :
    ∃ n text, (n, text) ∈ lines ∧ (Action.ofLine text delimiter n).mistake? = some cause ∧
      ∀ m earlier, m < n → (m, earlier) ∈ lines → (Action.ofLine earlier delimiter m).Sound := by
  rw [List.head?_filterMap, actionsOf, List.findSome?_map] at h
  obtain ⟨before, ⟨n, text⟩, after, rfl, hmistake, hbefore⟩ := List.findSome?_eq_some_iff.mp h
  simp only [Function.comp_apply] at hmistake hbefore
  refine ⟨n, text, by simp, hmistake, fun m earlier hlt hmem => ?_⟩
  -- A line with a smaller number is before the first bad line, and nothing there is bad.
  rw [List.mem_append, List.mem_cons] at hmem
  rcases hmem with hmem | heq | hmem
  · exact Action.mistake?_eq_none_iff.mp (hbefore (m, earlier) hmem)
  · cases heq
    exact absurd hlt (Nat.lt_irrefl _)
  · have hgt : n < m := List.rel_of_pairwise_cons (List.pairwise_append.mp hsorted).2.1 hmem
    omega

end CheckedActions

namespace FileTree

variable (t : FileTree) (delimiter : String) (maps : Path)

/-! ## Pages -/

/-- A UI map that can be read and has nothing but sound actions on the lines that count. -/
def SoundMap (map : Path) : Prop :=
  ∃ content, t.read map = .ok content ∧
    ∀ n text, IsEffectiveLine content n text → (Action.ofLine text delimiter n).Sound

/-- All that is wrong with a UI map. -/
def mapFaults (map : Path) : List LoadError :=
  match t.read map with
  | .error cause => [.unreadable map cause]
  | .ok content =>
    ((actionsOf delimiter (effectiveLines content)).filterMap Action.mistake?).map
      (.badAction map)

/-- A page has the name of a UI map and its actions: one for each line that counts, with the
number of the line. -/
def IsPage (name : String) (page : Page) : Prop :=
  page.name = name ∧ ∃ content lines, t.read (maps.join ⟨name⟩) = .ok content ∧
    ListsEffective content lines ∧ page.actions = actionsOf delimiter lines

/-- What the page of a UI map is read as. -/
def page (name : String) : Except LoadError Page := do
  let content ← (t.read (maps.join ⟨name⟩)).mapError (.unreadable (maps.join ⟨name⟩))
  let actions ← (checkedActions delimiter (effectiveLines content)).mapError
    (.badAction (maps.join ⟨name⟩))
  pure ⟨name, actions⟩

theorem reads_lines (path : Path) :
    t.Reads (Loading.lines path)
      ((t.read path).mapError (.unreadable path) >>= fun content =>
        .ok (effectiveLines content)) := by
  have hread : t.Reads (Loading.read path) ((t.read path).mapError (.unreadable path)) :=
    .orFail _ rfl
  exact hread.bind fun content => .pure _

theorem reads_page (name : String) :
    t.Reads (Loading.page delimiter maps name) (t.page delimiter maps name) := by
  have hlines := t.reads_lines (maps.join ⟨name⟩)
  unfold page
  cases hread : t.read (maps.join ⟨name⟩) with
  | error cause =>
      rw [hread] at hlines
      exact hlines.stop
  | ok content =>
      rw [hread] at hlines
      refine hlines.after ?_
      change t.Reads _ ((checkedActions delimiter (effectiveLines content)).mapError
        (LoadError.badAction (maps.join ⟨name⟩)) >>= fun actions => pure (⟨name, actions⟩ : Page))
      cases checkedActions delimiter (effectiveLines content) with
      | ok actions => exact .pure _
      | error e => exact .throw _

/-- A page that cannot be read is reported for the first thing that is wrong with it. -/
theorem fault?_page (name : String) :
    fault? (t.page delimiter maps name) = (t.mapFaults delimiter (maps.join ⟨name⟩)).head? := by
  unfold page mapFaults
  cases t.read (maps.join ⟨name⟩) with
  | error cause => rfl
  | ok content =>
      rw [List.head?_map, ← fault?_checkedActions, ← fault?_mapError]
      exact fault?_bind_pure ((checkedActions delimiter (effectiveLines content)).mapError _) _

variable {t delimiter maps}

theorem isPage_of_page {name : String} {page : Page}
    (h : t.page delimiter maps name = .ok page) : t.IsPage delimiter maps name page := by
  obtain ⟨content, hread, h⟩ := exists_of_bind_eq_ok h
  obtain ⟨actions, hactions, h⟩ := exists_of_bind_eq_ok h
  cases h
  exact ⟨rfl, content, _, eq_ok_of_mapError_eq_ok hread, listsEffective_effectiveLines content,
    eq_actionsOf_of_checkedActions (eq_ok_of_mapError_eq_ok hactions)⟩

theorem mapFaults_eq_nil_iff {map : Path} :
    t.mapFaults delimiter map = [] ↔ t.SoundMap delimiter map := by
  unfold mapFaults SoundMap actionsOf
  cases t.read map with
  | error cause => simp
  | ok content =>
      simp [List.filterMap_eq_nil_iff, Action.mistake?_eq_none_iff, mem_effectiveLines]

/-- If the first fault of a UI map is a bad action, it is that of the first bad line: it is
reported with the UI map and with the number of the line, and no line before it is bad. -/
theorem exists_of_head?_mapFaults {map file : Path} {cause : RunError}
    (h : (t.mapFaults delimiter map).head? = some (.badAction file cause)) :
    file = map ∧ ∃ content n text, t.read map = .ok content ∧ IsEffectiveLine content n text ∧
      (Action.ofLine text delimiter n).mistake? = some cause ∧ cause.line? = some n ∧
      ∀ m earlier, m < n → IsEffectiveLine content m earlier →
        (Action.ofLine earlier delimiter m).Sound := by
  unfold mapFaults at h
  split at h
  · simp at h
  · rename_i content hcontent
    rw [List.head?_map] at h
    obtain ⟨cause', hcause, heq⟩ := Option.map_eq_some_iff.mp h
    cases heq
    obtain ⟨hsorted, hlists⟩ := listsEffective_effectiveLines content
    obtain ⟨n, text, hmem, hmistake, hearlier⟩ := exists_first_bad_line hsorted hcause
    have hline := Action.line?_of_mistake? hmistake
    rw [Action.line_ofLine] at hline
    exact ⟨rfl, content, n, text, hcontent, (hlists n text).mp hmem, hmistake, hline,
      fun m earlier hlt heffective => hearlier m earlier hlt ((hlists m earlier).mpr heffective)⟩

/-! ## Suites -/

variable (t delimiter maps)

/-- A suite file that can be read and lists sound UI maps only. -/
def SoundSuite (file : Path) : Prop :=
  ∃ content, t.read file = .ok content ∧
    ∀ n name, IsEffectiveLine content n name → t.SoundMap delimiter (maps.join ⟨name⟩)

/-- All that is wrong with a suite file and the UI maps that it lists. -/
def suiteFaults (file : Path) : List LoadError :=
  match t.read file with
  | .error cause => [.unreadable file cause]
  | .ok content =>
    (effectiveLines content).flatMap fun l => t.mapFaults delimiter (maps.join ⟨l.2⟩)

/-- A suite has the name of a suite file and one page for each line that counts. -/
def IsSuite (file : Path) (suite : Suite) : Prop :=
  suite.name = file.text ∧ ∃ content lines, t.read file = .ok content ∧
    ListsEffective content lines ∧
    List.Forall₂ (fun l page => t.IsPage delimiter maps l.2 page) lines suite.pages

/-- What the suite of a suite file is read as. -/
def suite (file : Path) : Except LoadError Suite := do
  let content ← (t.read file).mapError (.unreadable file)
  let pages ← (effectiveLines content).mapM fun l => t.page delimiter maps l.2
  pure ⟨file.text, pages⟩

theorem reads_suite (file : Path) :
    t.Reads (Loading.suite delimiter maps file) (t.suite delimiter maps file) := by
  have hall := (t.reads_lines file).bind fun lines =>
    (Reads.mapM (fun l : Nat × String => t.reads_page delimiter maps l.2) lines).bind
      (g := fun pages => pure (⟨file.text, pages⟩ : Suite)) fun pages => .pure _
  rwa [bind_assoc] at hall

/-- A suite that cannot be read is reported for the first thing that is wrong with it. -/
theorem fault?_suite (file : Path) :
    fault? (t.suite delimiter maps file) = (t.suiteFaults delimiter maps file).head? := by
  unfold suite suiteFaults
  cases t.read file with
  | error cause => rfl
  | ok content =>
      have hpages : fault? ((effectiveLines content).mapM fun l => t.page delimiter maps l.2) =
          ((effectiveLines content).flatMap fun l =>
            t.mapFaults delimiter (maps.join ⟨l.2⟩)).head? := by
        apply fault?_mapM_eq_head?
        intro l
        exact t.fault?_page delimiter maps l.2
      rw [← hpages]
      exact fault?_bind_pure ((effectiveLines content).mapM _) _

variable {t delimiter maps}

theorem isSuite_of_suite {file : Path} {suite : Suite}
    (h : t.suite delimiter maps file = .ok suite) : t.IsSuite delimiter maps file suite := by
  obtain ⟨content, hread, h⟩ := exists_of_bind_eq_ok h
  obtain ⟨pages, hpages, h⟩ := exists_of_bind_eq_ok h
  cases h
  exact ⟨rfl, content, _, eq_ok_of_mapError_eq_ok hread, listsEffective_effectiveLines content,
    (mapM_eq_ok_iff.mp hpages).imp fun l page => isPage_of_page⟩

theorem suiteFaults_eq_nil_iff {file : Path} :
    t.suiteFaults delimiter maps file = [] ↔ t.SoundSuite delimiter maps file := by
  unfold suiteFaults SoundSuite
  cases t.read file with
  | error cause => simp
  | ok content => simp [mapFaults_eq_nil_iff, mem_effectiveLines]

/-- A bad action is the first fault of a UI map if it is the first fault of a suite file. -/
theorem exists_of_head?_suiteFaults {map file : Path} {cause : RunError}
    (h : (t.suiteFaults delimiter maps file).head? = some (.badAction map cause)) :
    (t.mapFaults delimiter map).head? = some (.badAction map cause) := by
  unfold suiteFaults at h
  split at h
  · simp at h
  · rw [List.head?_flatMap] at h
    obtain ⟨l, -, hl⟩ := List.exists_of_findSome?_eq_some h
    obtain ⟨rfl, -⟩ := exists_of_head?_mapFaults hl
    exact hl

/-! ## Several suites -/

theorem exists_suites_iff (files : List Path) :
    (∃ suites, files.mapM (t.suite delimiter maps) = .ok suites) ↔
      ∀ file ∈ files, t.SoundSuite delimiter maps file := by
  rw [← fault?_eq_none_iff, fault?_mapM_eq_head? (t.fault?_suite delimiter maps),
    List.head?_eq_none_iff, List.flatMap_eq_nil_iff]
  simp only [suiteFaults_eq_nil_iff]

theorem mapM_suite_eq_error_iff (files : List Path) (e : LoadError) :
    files.mapM (t.suite delimiter maps) = .error e ↔
      (files.flatMap (t.suiteFaults delimiter maps)).head? = some e := by
  rw [← fault?_eq_some_iff, fault?_mapM_eq_head? (t.fault?_suite delimiter maps)]

end FileTree

end BrowserSuite
