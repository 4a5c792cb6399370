import BrowserSuite.Proofs.Files.Results
import BrowserSuite.Proofs.Program.Failing

/-!
# Tasks that only read

Most tasks look at a file tree and leave it as it is.  What such a task ends with is then a
value or an error that can be computed from the tree, and tasks are composed as these results
are (`Reads.bind`): the run of a loop is the loop over the results of its rounds.
-/

namespace BrowserSuite

namespace FileTree

variable {ε α β : Type} {t : FileTree}

/-- On a file tree, a task ends with `x` and changes nothing. -/
def Reads (t : FileTree) (task : FileTask ε α) (x : Except ε α) : Prop := t.run task = (x, t)

/-- The kind of what is at a path, if anything. -/
def kind? (t : FileTree) (path : Path) : Option FileKind := (t.entry path).toOption.map Entry.kind

/-- A directory has a list of its names. -/
theorem exists_list {path : Path} (h : t.entry path = .ok .directory) :
    ∃ names, t.list path = .ok names := by
  obtain ⟨place, hplace, hat⟩ := exists_of_bind_eq_ok h
  have hdirectory : t.at? place = some .directory := by
    split at hat
    · rename_i found hfound
      cases hat
      exact hfound
    · cases hat
  cases hlist : t.list path with
  | ok names => exact ⟨names, rfl⟩
  | error e => simp [list, hplace, hdirectory, bind, Except.bind, Pure.pure, Except.pure] at hlist

namespace Reads

/-- What a task that reads ends with is what it reads. -/
theorem of_run {task : FileTask ε α} {x y : Except ε α} (h : t.Reads task x)
    (hrun : (t.run task).1 = y) : t.Reads task y := by
  rw [h] at hrun
  cases hrun
  exact h

theorem pure (a : α) : t.Reads (Pure.pure a : FileTask ε α) (.ok a) := rfl

theorem throw (e : ε) : t.Reads (MonadExcept.throw e : FileTask ε α) (.error e) := rfl

theorem bind {task : FileTask ε α} {f : α → FileTask ε β} {x : Except ε α}
    {g : α → Except ε β} (htask : t.Reads task x) (hf : ∀ a, t.Reads (f a) (g a)) :
    t.Reads (task >>= f) (x >>= g) := by
  unfold Reads
  rw [run_bind, htask]
  cases x with
  | ok a => exact hf a
  | error e => rfl

/-- After a part that has a value, only what is done with this value matters. -/
theorem after {task : FileTask ε α} {f : α → FileTask ε β} {a : α} {x : Except ε β}
    (htask : t.Reads task (.ok a)) (hf : t.Reads (f a) x) : t.Reads (task >>= f) x := by
  unfold Reads
  rw [run_bind, htask]
  exact hf

/-- Nothing comes after a part that fails. -/
theorem stop {task : FileTask ε α} {f : α → FileTask ε β} {e : ε}
    (htask : t.Reads task (.error e)) : t.Reads (task >>= f) (.error e) := by
  unfold Reads
  rw [run_bind, htask]

theorem mapM {f : α → FileTask ε β} {g : α → Except ε β} (hf : ∀ a, t.Reads (f a) (g a))
    (l : List α) : t.Reads (l.mapM f) (l.mapM g) := by
  induction l with
  | nil => rfl
  | cons a rest ih =>
      rw [List.mapM_cons, List.mapM_cons]
      exact (hf a).bind fun b => ih.bind fun bs => .pure _

theorem filterM {q : α → FileTask ε Bool} {p : α → Bool} (hq : ∀ a, t.Reads (q a) (.ok (p a)))
    (l : List α) : t.Reads (l.filterM q) (.ok (l.filter p)) := by
  -- The loop collects in reverse what it keeps.
  have hloop : ∀ kept, t.Reads (l.filterAuxM q kept) (.ok ((l.filter p).reverse ++ kept)) := by
    induction l with
    | nil => exact fun kept => .pure kept
    | cons a rest ih =>
        intro kept
        refine (hq a).after ?_
        cases hp : p a with
        | true => simpa [hp] using ih (a :: kept)
        | false => simpa [hp] using ih kept
  have hall := (hloop []).after (f := fun kept => Pure.pure kept.reverse) (.pure _)
  rwa [List.append_nil, List.reverse_reverse] at hall

/-! ## Single requests -/

theorem kind (path : Path) : t.Reads (FileTask.kind? path : FileTask ε _) (.ok (t.kind? path)) :=
  rfl

theorem isDirectory (path : Path) :
    t.Reads (FileTask.isDirectory path : FileTask ε _) (.ok (t.kind? path == some .directory)) :=
  rfl

theorem isFile (path : Path) :
    t.Reads (FileTask.isFile path : FileTask ε _) (.ok (t.kind? path == some .file)) :=
  rfl

/-- An error of the file system is wrapped. -/
theorem orFail {reply : FileTask ε (Except FileError α)} {x : Except FileError α}
    (wrap : FileError → ε) (h : t.Reads reply (.ok x)) :
    t.Reads (FileTask.orFail wrap reply) (x.mapError wrap) := by
  refine h.after ?_
  cases x with
  | ok a => exact .pure a
  | error e => exact .throw _

theorem firstOfKind? (kind : FileKind) (paths : List Path) :
    t.Reads (FileTask.firstOfKind? kind paths : FileTask ε _)
      (.ok (paths.find? fun p => t.kind? p == some kind)) := by
  induction paths with
  | nil => exact .pure none
  | cons p rest ih =>
      refine (Reads.kind p).after ?_
      rw [List.find?_cons]
      split
      · rename_i h
        rw [h]
        exact .pure (some p)
      · rename_i h
        rw [Bool.not_eq_true] at h
        rw [h]
        exact ih

end Reads

end FileTree

end BrowserSuite
