import BrowserSuite.UiMap.Line
import Mathlib.Data.List.Basic

/-!
# Numbered lines

`Text.linesOf` cuts a text from the front.  `Text.IsLine` says without any cutting where the
lines of a text are: a line begins the text or stands behind a line feed, its number is one
more than the number of line feeds before it, and it reaches to the next line feed, up to a
carriage return there, or to the end of the text.  The two agree (`getElem?_linesOf`), so the
number of a line counts whatever is before it, comments and empty lines included.

Both are taken apart at the first line feed.  A text without one is its own single line; in
any other the first line is what stands before the line feed, and the remaining lines are
those of the text behind it with numbers greater by one.
-/

namespace BrowserSuite

namespace Text

/-- What stands behind a line: a line feed, with or without a carriage return before it, or
nothing if the line is not empty. -/
inductive EndsLine (line : List Char) : List Char → Prop where
  | returned (after : List Char) : EndsLine line ('\r' :: '\n' :: after)
  | fed (after : List Char) (h : line.getLast? ≠ some '\r') : EndsLine line ('\n' :: after)
  | last (h : line ≠ []) : EndsLine line []

/-- A text is a line of another one, with a number that counts from one. -/
def IsLine (text : List Char) (n : Nat) (line : List Char) : Prop :=
  ∃ before behind, text = before ++ (line ++ behind) ∧
    (before = [] ∨ before.getLast? = some '\n') ∧ before.count '\n' + 1 = n ∧
    '\n' ∉ line ∧ EndsLine line behind

theorem IsLine.exists_eq_succ {text line : List Char} {n : Nat} (h : IsLine text n line) :
    ∃ k, n = k + 1 := by
  obtain ⟨before, -, -, -, hcount, -⟩ := h
  exact ⟨before.count '\n', hcount.symm⟩

/-! ## The first line feed -/

variable {s first line rest : List Char} {n : Nat}

theorem cutLine_of_notMem (h : '\n' ∉ s) : cutLine s = (s, none) := by
  induction s with
  | nil => rfl
  | cons c r ih =>
      obtain ⟨hc, hr⟩ : '\n' ≠ c ∧ '\n' ∉ r := by simpa using h
      simp [cutLine, Ne.symm hc, ih hr]

theorem cutLine_append (h : '\n' ∉ first) (rest : List Char) :
    cutLine (first ++ '\n' :: rest) = (first, some rest) := by
  induction first with
  | nil => rfl
  | cons c r ih =>
      obtain ⟨hc, hr⟩ : '\n' ≠ c ∧ '\n' ∉ r := by simpa using h
      simp [cutLine, Ne.symm hc, ih hr]

/-- The first line feed of a text is where it is. -/
theorem eq_of_first_feed {first' rest' : List Char} (h : '\n' ∉ first) (h' : '\n' ∉ first')
    (heq : first ++ '\n' :: rest = first' ++ '\n' :: rest') : first = first' ∧ rest = rest' := by
  have hcut := congrArg cutLine heq
  rw [cutLine_append h, cutLine_append h'] at hcut
  simpa using hcut

theorem linesOf_of_notMem (h : '\n' ∉ s) : linesOf s = if s = [] then [] else [s] := by
  rw [linesOf]
  split_ifs with hs
  · rfl
  · split
    · rename_i l hcut
      rw [cutLine_of_notMem h] at hcut
      rw [(Prod.mk.inj hcut).1]
    · rename_i l r hcut
      rw [cutLine_of_notMem h] at hcut
      cases hcut

theorem linesOf_append (h : '\n' ∉ first) (rest : List Char) :
    linesOf (first ++ '\n' :: rest) = dropReturn first :: linesOf rest := by
  rw [linesOf, if_neg (by simp)]
  split
  · rename_i l hcut
    rw [cutLine_append h] at hcut
    cases hcut
  · rename_i l r hcut
    rw [cutLine_append h] at hcut
    cases hcut
    rfl

/-! ## The same for the lines that are there -/

theorem dropReturn_append_return (line : List Char) : dropReturn (line ++ ['\r']) = line := by
  simp [dropReturn]

theorem endsLine_dropReturn (h : '\n' ∉ first) (rest : List Char) :
    ∃ behind, first ++ '\n' :: rest = dropReturn first ++ behind ∧ '\n' ∉ dropReturn first ∧
      EndsLine (dropReturn first) behind := by
  by_cases hreturn : first.getLast? = some '\r'
  · obtain ⟨line, rfl⟩ := List.getLast?_eq_some_iff.mp hreturn
    rw [dropReturn_append_return]
    exact ⟨_, by simp, fun hmem => h (List.mem_append_left _ hmem), .returned rest⟩
  · rw [dropReturn, if_neg hreturn]
    exact ⟨_, rfl, h, .fed rest hreturn⟩

/-- What ends at the first line feed, or at a carriage return there, is the first line. -/
theorem eq_dropReturn_of_endsLine {behind : List Char} (h : '\n' ∉ first) (hline : '\n' ∉ line)
    (hends : EndsLine line behind) (htext : first ++ '\n' :: rest = line ++ behind) :
    line = dropReturn first := by
  cases hends with
  | returned after =>
      have hsplit : first ++ '\n' :: rest = (line ++ ['\r']) ++ '\n' :: after := by
        simpa using htext
      obtain ⟨rfl, -⟩ := eq_of_first_feed h (by simpa using hline) hsplit
      exact (dropReturn_append_return line).symm
  | fed after hreturn =>
      obtain ⟨rfl, -⟩ := eq_of_first_feed h hline htext
      rw [dropReturn, if_neg hreturn]
  | last =>
      refine absurd ?_ hline
      rw [← List.append_nil line, ← htext]
      simp

theorem isLine_of_notMem (h : '\n' ∉ s) : IsLine s n line ↔ n = 1 ∧ line = s ∧ s ≠ [] := by
  constructor
  · rintro ⟨before, behind, rfl, hbefore, hcount, -, hends⟩
    have hnil : before = [] := by
      refine hbefore.resolve_right fun hlast => h ?_
      exact List.mem_append_left _ (List.mem_of_getLast? hlast)
    subst hnil
    cases hends with
    | returned after => simp at h
    | fed after => simp at h
    | last hline => simpa [hline] using hcount.symm
  · rintro ⟨rfl, rfl, hs⟩
    exact ⟨[], [], by simp, .inl rfl, rfl, h, .last hs⟩

theorem isLine_append (h : '\n' ∉ first) :
    IsLine (first ++ '\n' :: rest) n line ↔
      (n = 1 ∧ line = dropReturn first) ∨ ∃ m, n = m + 1 ∧ IsLine rest m line := by
  constructor
  · rintro ⟨before, behind, htext, hbefore | hbefore, hcount, hline, hends⟩
    -- Nothing is before the line, so the first line feed is the one that ends it.
    · subst hbefore
      exact .inl ⟨hcount.symm, eq_dropReturn_of_endsLine h hline hends htext⟩
    -- Otherwise the first line feed is before the line and takes one from its number.
    · obtain ⟨start, between, rfl, hstart⟩ :=
        List.eq_append_cons_of_mem (List.mem_of_getLast? hbefore)
      obtain ⟨rfl, rfl⟩ := eq_of_first_feed h hstart (by simpa using htext)
      refine .inr ⟨between.count '\n' + 1, ?_, between, behind, rfl, ?_, rfl, hline, hends⟩
      · simpa [List.count_eq_zero_of_not_mem h] using hcount.symm
      · cases between with
        | nil => exact .inl rfl
        | cons c r => exact .inr (by simpa using hbefore)
  · rintro (⟨rfl, rfl⟩ | ⟨m, rfl, before, behind, rfl, hbefore, rfl, hline, hends⟩)
    · obtain ⟨behind, htext, hline, hends⟩ := endsLine_dropReturn h rest
      exact ⟨[], behind, htext, .inl rfl, rfl, hline, hends⟩
    · refine ⟨first ++ '\n' :: before, behind, by simp, .inr ?_, ?_, hline, hends⟩
      · rcases hbefore with rfl | hbefore <;> simp_all [List.getLast?_cons]
      · simp [List.count_eq_zero_of_not_mem h]

/-! ## Agreement -/

/-- The lines that are cut off a text are the lines that are in it. -/
theorem getElem?_linesOf (s : List Char) (n : Nat) (line : List Char) :
    (linesOf s)[n]? = some line ↔ IsLine s (n + 1) line := by
  induction hlength : s.length using Nat.strongRecOn generalizing s n with
  | _ length ih =>
    by_cases hfeed : '\n' ∈ s
    · obtain ⟨first, rest, rfl, hfirst⟩ := List.eq_append_cons_of_mem hfeed
      have hrest : rest.length < length := by
        rw [← hlength, List.length_append, List.length_cons]
        omega
      rw [linesOf_append hfirst, isLine_append hfirst]
      cases n with
      | zero => simp [IsLine, eq_comm]
      | succ n =>
          rw [List.getElem?_cons_succ, ih _ hrest rest n rfl]
          simp
    · rw [linesOf_of_notMem hfeed, isLine_of_notMem hfeed]
      split_ifs with hs
      · simp [hs]
      · cases n <;> simp [hs, eq_comm]

end Text

/-! ## The lines that count -/

/-- A line of a file counts, and without the blanks around it it is `text`. -/
def IsEffectiveLine (content : String) (n : Nat) (text : String) : Prop :=
  ∃ line : String, Text.IsLine content.toList n line.toList ∧ text = Text.trim line ∧
    isEffective text = true

/-- A list of the lines of a file that count, in the order of the file. -/
def ListsEffective (content : String) (lines : List (Nat × String)) : Prop :=
  lines.Pairwise (·.1 < ·.1) ∧ ∀ n text, (n, text) ∈ lines ↔ IsEffectiveLine content n text

theorem isLine_iff_getElem?_lines {content line : String} {n : Nat} :
    Text.IsLine content.toList (n + 1) line.toList ↔ (Text.lines content)[n]? = some line := by
  rw [← Text.getElem?_linesOf, Text.lines, List.getElem?_map, Option.map_eq_some_iff]
  constructor
  · intro h
    exact ⟨_, h, String.ofList_toList⟩
  · rintro ⟨chars, h, rfl⟩
    simpa using h

/-- A number belongs to one line. -/
theorem Text.IsLine.unique {content line line' : String} {n : Nat}
    (h : IsLine content.toList n line.toList) (h' : IsLine content.toList n line'.toList) :
    line = line' := by
  obtain ⟨k, rfl⟩ := h.exists_eq_succ
  have hline := isLine_iff_getElem?_lines.mp h
  rw [isLine_iff_getElem?_lines.mp h'] at hline
  exact (Option.some.inj hline).symm

theorem mem_effectiveLines {content text : String} {n : Nat} :
    (n, text) ∈ effectiveLines content ↔ IsEffectiveLine content n text := by
  unfold effectiveLines IsEffectiveLine
  simp only [List.mem_filter, List.mem_map, Prod.exists, Prod.mk.injEq]
  constructor
  · rintro ⟨⟨line, m, hmem, rfl, rfl⟩, heffective⟩
    obtain ⟨hle, hget⟩ := List.mem_zipIdx_iff_le_and_getElem?_sub.mp hmem
    obtain ⟨k, rfl⟩ : ∃ k, m = k + 1 := ⟨m - 1, by omega⟩
    exact ⟨line, isLine_iff_getElem?_lines.mpr (by simpa using hget), rfl, heffective⟩
  · rintro ⟨line, hline, rfl, heffective⟩
    obtain ⟨k, rfl⟩ := hline.exists_eq_succ
    have hget := isLine_iff_getElem?_lines.mp hline
    refine ⟨⟨line, k + 1, ?_, rfl, rfl⟩, heffective⟩
    exact List.mem_zipIdx_iff_le_and_getElem?_sub.mpr ⟨by simp, by simpa using hget⟩

/-- No line that counts is left out, each one has its number in the file, and the lines that
do not count are numbered with the others. -/
theorem listsEffective_effectiveLines (content : String) :
    ListsEffective content (effectiveLines content) := by
  refine ⟨?_, fun n text => mem_effectiveLines⟩
  have hnumbers : ((Text.lines content).zipIdx 1).map Prod.snd =
      List.range' 1 (Text.lines content).length := List.zipIdx_map_snd ..
  have hpairwise : ((Text.lines content).zipIdx 1).Pairwise (·.2 < ·.2) :=
    List.pairwise_map.mp (hnumbers ▸ List.pairwise_lt_range')
  unfold effectiveLines
  refine List.Pairwise.filter _ (List.pairwise_map.mpr ?_)
  exact hpairwise

end BrowserSuite
