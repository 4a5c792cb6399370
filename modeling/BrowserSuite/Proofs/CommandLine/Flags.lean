import BrowserSuite.CommandLine.Arguments
import BrowserSuite.Config.Environment
import BrowserSuite.Proofs.Program.Failing

/-!
# The flags of a command line

The settings that a job is made of are those of the innermost level of its command line.
Whether a setting was made there is told by the list of the level, not by the arguments of
the job, in which a default can stand for a flag that was not given.

Every setting that is made has been found to fit its form (`Reading.Fits`), word by word, so
a number that was given is a number (`flags_fit`).
-/

namespace BrowserSuite.CommandLine

/-! ## Values that fit -/

/-- Every setting that has been made fits its form. -/
def Reading.Fits (r : Reading) : Prop := ∀ x ∈ r.given, x.1.fault? x.2 = none

namespace Reading

variable {r r' : Reading} {l : Level}

theorem fits_empty : Fits {} := List.forall_mem_nil _

theorem Fits.congr (h : r.Fits) (hgiven : r'.given = r.given) : r'.Fits := by
  unfold Fits
  rw [hgiven]
  exact h

theorem Fits.record (h : r.Fits) {s : Setting} {value : String}
    (hrecord : r.record s value = .ok r') : r'.Fits := by
  unfold Reading.record at hrecord
  split at hrecord
  · cases hrecord
  · split at hrecord
    · cases hrecord
    · rename_i hfault
      cases hrecord
      refine List.forall_mem_append.mpr ⟨h, ?_⟩
      simpa using hfault

theorem Fits.settle (h : r.Fits) (hsettle : r.settle = .ok r') : r'.Fits := by
  unfold Reading.settle at hsettle
  split at hsettle
  · cases hsettle
    exact h
  · cases hsettle
  · exact (h.congr rfl : Fits { r with pending := none }).record hsettle

theorem Fits.assign (h : r.Fits) {s : Setting} {value : String}
    (hassign : r.assign s value = .ok r') : r'.Fits := by
  obtain ⟨settled, hsettle, hrecord⟩ := exists_of_bind_eq_ok hassign
  exact (h.settle hsettle).record hrecord

theorem Fits.raise (h : r.Fits) {s : Setting} (hraise : r.raise s = .ok r') : r'.Fits := by
  obtain ⟨settled, hsettle, hrecord⟩ := exists_of_bind_eq_ok hraise
  split at hrecord
  · cases hrecord
  · cases hrecord
  · exact (h.settle hsettle).record hrecord

theorem Fits.postpone (h : r.Fits) {s : Setting} {value : Option String}
    (hpostpone : r.postpone s value = .ok r') : r'.Fits := by
  obtain ⟨settled, hsettle, hpending⟩ := exists_of_bind_eq_ok hpostpone
  cases hpending
  exact (h.settle hsettle).congr rfl

theorem Fits.long (h : r.Fits) {name : String} {value : Option String}
    (hlong : r.long l name value = .ok r') : r'.Fits := by
  unfold Reading.long at hlong
  split at hlong
  · cases hlong
  · split at hlong
    · exact h.raise hlong
    · cases hlong
    · exact h.postpone hlong
    · exact h.assign hlong

theorem Fits.letters (h : r.Fits) {cs : List Char} (hletters : r.letters l cs = .ok r') :
    r'.Fits := by
  induction cs generalizing r with
  | nil =>
      cases hletters
      exact h
  | cons c rest ih =>
      unfold Reading.letters at hletters
      split at hletters
      · cases hletters
      · rename_i s hs
        split at hletters
        · obtain ⟨raised, hraise, hrest⟩ := exists_of_bind_eq_ok hletters
          exact ih (h.raise hraise) hrest
        · exact h.postpone hletters
        · exact h.assign hletters
        · exact h.assign hletters

theorem Fits.plain (h : r.Fits) {word : String} (hplain : r.plain l word = .ok r') : r'.Fits := by
  unfold Reading.plain at hplain
  split at hplain
  · split at hplain
    · cases hplain
    · exact h.postpone hplain
  · split at hplain <;> cases hplain

theorem Fits.word (h : r.Fits) {text : String} (hword : r.word l text = .ok r') : r'.Fits := by
  unfold Reading.word at hword
  split at hword
  · exact h.plain hword
  · split at hword
    · cases hword
      exact h.congr rfl
    · exact h.long hword
    · exact h.letters hword
    · split at hword
      · cases hword
        exact h.congr rfl
      · exact h.plain hword

end Reading

/-- The settings of the innermost level fit, however many levels have been opened. -/
theorem Position.fits_read {words : List String} {p q : Position} (h : p.reading.Fits)
    (hread : Position.read words p = .ok q) : q.reading.Fits := by
  induction words generalizing p with
  | nil =>
      cases hread
      exact h
  | cons word rest ih =>
      unfold Position.read at hread
      split at hread
      · cases hread
      · exact ih Reading.fits_empty hread
      · obtain ⟨reading, hword, hrest⟩ := exists_of_bind_eq_ok hread
        exact ih (h.word hword) hrest

/-! ## The settings of a job -/

/-- The settings that a command line makes at its innermost level. -/
def flags (words : List String) : Except UsageError Given := do
  let p ← Position.read words ⟨.program, {}, []⟩
  return (← p.reading.settle).given

/-- Every setting of a command line fits its form. -/
theorem flags_fit {words : List String} {g : Given} (h : flags words = .ok g) :
    ∀ x ∈ g, x.1.fault? x.2 = none := by
  obtain ⟨p, hread, h⟩ := exists_of_bind_eq_ok h
  obtain ⟨r, hsettle, h⟩ := exists_of_bind_eq_ok h
  cases h
  exact (Position.fits_read Reading.fits_empty hread).settle hsettle

/-- The flags of a run as settings of the kinds that the environment has.  There is no flag
for the browser, and none for the time to wait. -/
def Given.layer (g : Given) : Environment where
  configFile := g.lookup .config
  threads := (g.lookup .threads).bind (Number.unsigned? (Nat.pow 2 64))
  tier := g.lookup .tier
  driverUrl := g.lookup .driverUrl
  headless := if Given.has g .headless then some true else none
  logFile := g.lookup .logFile

/-- A number of workers that was given is a number, and counts. -/
theorem threads_layer_of_flags {words : List String} {g : Given} (h : flags words = .ok g)
    {text : String} (hthreads : g.lookup .threads = some text) :
    ∃ n, Number.unsigned? (Nat.pow 2 64) text = some n ∧ g.layer.threads = some n := by
  obtain ⟨before, after, hg, -⟩ := List.lookup_eq_some_iff.mp hthreads
  have hfit : Setting.fault? .threads text = none := flags_fit h (.threads, text) (by simp [hg])
  cases hnumber : Number.unsigned? (Nat.pow 2 64) text with
  | none => simp [Setting.fault?, Setting.form, hnumber] at hfit
  | some n => exact ⟨n, rfl, by simp [Given.layer, hthreads, hnumber]⟩

/-- A run has the settings of its level, with a tier where none is given. -/
structure RunArguments.Of (a : RunArguments) (g : Given) : Prop where
  config : a.config = g.layer.configFile.map Path.mk
  threads : a.threads = g.layer.threads
  tier : a.tier = g.layer.tier.getD standardTier
  driverUrl : a.driverUrl = g.layer.driverUrl
  headless : a.headless = Given.has g .headless
  logFile : a.logFile = g.layer.logFile

/-- Only a run has the arguments of one. -/
theorem of_job {l : Level} {g : Given} {a : RunArguments} (h : l.job g = .ok (.run a)) :
    a.Of g := by
  cases l with
  | run =>
      obtain ⟨suite, -, hrun⟩ := exists_of_bind_eq_ok h
      cases hrun
      exact ⟨rfl, rfl, rfl, rfl, rfl, rfl⟩
  | check =>
      obtain ⟨suite, -, hcheck⟩ := exists_of_bind_eq_ok h
      cases hcheck
  | _ => cases h

/-- The job of a command line is made of the settings of its innermost level. -/
theorem exists_flags_of_words {words : List String} {args : Arguments} {a : RunArguments}
    (h : Arguments.ofWords words = .ok args) (hjob : args.job = .run a) :
    ∃ g, flags words = .ok g ∧ a.Of g := by
  obtain ⟨p, hread, h⟩ := exists_of_bind_eq_ok h
  obtain ⟨r, hsettle, h⟩ := exists_of_bind_eq_ok h
  obtain ⟨job, hrun, h⟩ := exists_of_bind_eq_ok h
  obtain ⟨around, -, h⟩ := exists_of_bind_eq_ok h
  cases h
  cases hjob
  refine ⟨r.given, ?_, of_job hrun⟩
  rw [flags, hread]
  change (p.reading.settle >>= fun r => pure r.given) = _
  rw [hsettle]
  rfl

end BrowserSuite.CommandLine
