import BrowserSuite.Text.Blank
import BrowserSuite.Text.Split
import Mathlib.Data.List.Infix
import Mathlib.Data.List.TakeWhile

/-!
# Fields and blanks

`Text.fieldsBy` goes through a text character by character: a separator ends a field, and
any other character is put in front of the fields of the rest.  So what stands in front of a
text goes to its first field as long as that field reaches beyond it (`fieldsBy_of_append`),
and a text has a single field if and only if the separator does not occur in it
(`exists_fieldsBy_singleton_iff`).

Trimming takes a blank margin off both sides of a text (`eq_margins`).  Where the margins do
not matter is a question about fields: blanks in front of a field vanish when that field is
trimmed (`trimChars_append_of_blank`), but blanks behind the last field do not.
-/

namespace BrowserSuite.Text

/-! ## Fields -/

section Fields

variable {separator s : List Char} {c : Char}

theorem pushFront_ne_nil (c : Char) (fs : List (List Char)) : pushFront c fs ≠ [] := by
  cases fs <;> simp [pushFront]

theorem fieldsBy_cons_of_starts (hne : separator ≠ []) (h : separator <+: c :: s) :
    fieldsBy separator (c :: s) = [] :: fieldsBy separator ((c :: s).drop separator.length) := by
  rw [fieldsBy, dif_pos ⟨List.isPrefixOf_iff_prefix.mpr h, hne⟩]

theorem fieldsBy_cons_of_not_starts (h : ¬ separator <+: c :: s) :
    fieldsBy separator (c :: s) = pushFront c (fieldsBy separator s) := by
  rw [fieldsBy, dif_neg fun hp => h (List.isPrefixOf_iff_prefix.mp hp.1)]

theorem fieldsBy_ne_nil (separator s : List Char) : fieldsBy separator s ≠ [] := by
  cases s with
  | nil => simp [fieldsBy]
  | cons c rest =>
      rw [fieldsBy]
      split
      · exact List.cons_ne_nil _ _
      · exact pushFront_ne_nil _ _

/-- A text has a first field. -/
theorem exists_fieldsBy_eq_cons (separator s : List Char) :
    ∃ field fs, fieldsBy separator s = field :: fs :=
  List.exists_cons_of_ne_nil (fieldsBy_ne_nil separator s)

theorem joinFields_cons (field : List Char) {fs : List (List Char)} (h : fs ≠ []) :
    joinFields separator (field :: fs) = field ++ separator ++ joinFields separator fs := by
  cases fs with
  | nil => exact absurd rfl h
  | cons => rfl

theorem joinFields_pushFront {fs : List (List Char)} (h : fs ≠ []) :
    joinFields separator (pushFront c fs) = c :: joinFields separator fs := by
  match fs with
  | [] => exact absurd rfl h
  | [_] => rfl
  | _ :: _ :: _ => rfl

/-- The fields with the separator between them are the text. -/
theorem joinFields_fieldsBy (separator s : List Char) :
    joinFields separator (fieldsBy separator s) = s := by
  induction s using fieldsBy.induct separator with
  | case1 =>
      rw [fieldsBy]
      rfl
  | case2 c rest h ih =>
      have hstarts := List.isPrefixOf_iff_prefix.mp h.1
      rw [fieldsBy_cons_of_starts h.2 hstarts, joinFields_cons _ (fieldsBy_ne_nil _ _), ih,
        List.nil_append]
      exact (List.prefix_iff_eq_append.mp hstarts).symm ▸ rfl
  | case3 c rest h ih =>
      rw [fieldsBy, dif_neg h, joinFields_pushFront (fieldsBy_ne_nil _ _), ih]

/-- What stands in front of a text is in its first field, if that field reaches beyond it. -/
theorem fieldsBy_of_append {lead core field : List Char} {fs : List (List Char)}
    (hne : separator ≠ []) (h : fieldsBy separator (lead ++ core) = field :: fs)
    (hle : lead.length ≤ field.length) :
    ∃ field', field = lead ++ field' ∧ fieldsBy separator core = field' :: fs := by
  induction lead generalizing field with
  | nil => exact ⟨field, rfl, h⟩
  | cons c rest ih =>
      by_cases hstarts : separator <+: c :: (rest ++ core)
      -- A separator at the start ends the first field before anything is in it.
      · rw [List.cons_append, fieldsBy_cons_of_starts hne hstarts] at h
        rw [← (List.cons.inj h).1] at hle
        cases hle
      · rw [List.cons_append, fieldsBy_cons_of_not_starts hstarts] at h
        obtain ⟨field', fs', hrest⟩ := exists_fieldsBy_eq_cons separator (rest ++ core)
        rw [hrest, pushFront, List.cons.injEq] at h
        obtain ⟨rfl, rfl⟩ := h
        obtain ⟨field'', rfl, hcore⟩ := ih hrest (Nat.le_of_succ_le_succ hle)
        exact ⟨field'', rfl, hcore⟩

/-- There is one field only where the separator does not occur. -/
theorem exists_fieldsBy_singleton_iff (hne : separator ≠ []) :
    (∃ field, fieldsBy separator s = [field]) ↔ ¬ separator <:+: s := by
  induction s with
  | nil =>
      rw [fieldsBy]
      simpa using hne
  | cons c rest ih =>
      rw [List.infix_cons_iff]
      by_cases hstarts : separator <+: c :: rest
      · rw [fieldsBy_cons_of_starts hne hstarts]
        obtain ⟨field, fs, hrest⟩ :=
          exists_fieldsBy_eq_cons separator ((c :: rest).drop separator.length)
        simp [hrest, hstarts]
      · rw [fieldsBy_cons_of_not_starts hstarts]
        obtain ⟨field, fs, hrest⟩ := exists_fieldsBy_eq_cons separator rest
        rw [hrest] at ih
        simpa [hrest, pushFront, hstarts] using ih

end Fields

/-! ## Blanks -/

section Blanks

variable {s lead trail : List Char}

theorem eq_trimEnd_append (s : List Char) :
    ∃ trail, s = trimEnd s ++ trail ∧ ∀ c ∈ trail, isBlank c := by
  refine ⟨(s.reverse.takeWhile isBlank).reverse, ?_, fun c hc => ?_⟩
  · rw [trimEnd, ← List.reverse_append, List.takeWhile_append_dropWhile, List.reverse_reverse]
  · exact List.mem_takeWhile_imp (List.mem_reverse.mp hc)

/-- A text is what trimming leaves of it between two margins of blanks. -/
theorem eq_margins (s : List Char) :
    ∃ trail, s = s.takeWhile isBlank ++ (trimChars s ++ trail) ∧ ∀ c ∈ trail, isBlank c := by
  obtain ⟨trail, hs, htrail⟩ := eq_trimEnd_append (trimStart s)
  refine ⟨trail, ?_, htrail⟩
  rw [trimChars, ← hs]
  exact List.takeWhile_append_dropWhile.symm

/-- There are no blanks behind a text that ends with no blank. -/
theorem eq_nil_of_getLast (htrail : ∀ c ∈ trail, isBlank c)
    (hlast : ∀ c ∈ (lead ++ trail).getLast?, isBlank c = false) : trail = [] := by
  by_contra hnil
  have hblank := htrail _ (List.getLast_mem hnil)
  rw [hlast _ (by simp [List.getLast?_eq_some_getLast hnil])] at hblank
  cases hblank

/-- Blanks in front of a text do not outlast trimming. -/
theorem trimChars_append_of_blank (h : ∀ c ∈ lead, isBlank c) (s : List Char) :
    trimChars (lead ++ s) = trimChars s := by
  unfold trimChars trimStart
  rw [List.dropWhile_append_of_pos h]

/-- The last character that trimming leaves is no blank. -/
theorem getLast_trimChars (s : List Char) : ∀ c ∈ (trimChars s).getLast?, isBlank c = false :=
  getLast_trimEnd (trimStart s)

/-- Nor is the first one. -/
theorem head_trimChars (s : List Char) : ∀ c ∈ (trimChars s).head?, isBlank c = false := by
  intro c hc
  obtain ⟨trail, hs, -⟩ := eq_trimEnd_append (trimStart s)
  refine head_trimStart s c ?_
  rw [hs]
  exact List.mem_head?_append_of_mem_head? hc

theorem trimStart_of_head (h : ∀ c ∈ s.head?, isBlank c = false) : trimStart s = s := by
  cases s with
  | nil => rfl
  | cons c rest => simp [trimStart, h c rfl]

theorem trimEnd_of_getLast (h : ∀ c ∈ s.getLast?, isBlank c = false) : trimEnd s = s := by
  rw [← List.head?_reverse] at h
  exact (congrArg List.reverse (trimStart_of_head h)).trans (List.reverse_reverse s)

/-- Nothing is left to be trimmed off a trimmed text. -/
theorem trimChars_trimChars (s : List Char) : trimChars (trimChars s) = trimChars s := by
  rw [trimChars, trimStart_of_head (head_trimChars s), trimEnd_of_getLast (getLast_trimChars s)]

end Blanks

/-! ## Fields of a trimmed text -/

section Margins

variable {separator s field : List Char} {fs : List (List Char)}

/-- The blanks in front of a text are in its first field, and unless that is the only field,
the text does not end with a blank. -/
def MarginsInFirst {α : Type} (s field : List Char) (others : List α) : Prop :=
  (s.takeWhile isBlank).length ≤ field.length ∧
    (others = [] ∨ ∀ c ∈ s.getLast?, isBlank c = false)

theorem exists_fieldsBy_trimChars (hne : separator ≠ [])
    (h : fieldsBy separator s = field :: fs) (hmargins : MarginsInFirst s field fs) :
    ∃ field', fieldsBy separator (trimChars s) = field' :: fs ∧
      trimChars field' = trimChars field := by
  obtain ⟨trail, hs, htrail⟩ := eq_margins s
  obtain ⟨hlead, rfl | hlast⟩ := hmargins
  -- The separator is nowhere in the text, and so it is nowhere in a part of it.
  · have hinfix : ¬ separator <:+: trimChars s := by
      intro hsub
      refine (exists_fieldsBy_singleton_iff hne).mp ⟨field, h⟩ (hsub.trans ?_)
      exact ⟨_, trail, by rw [List.append_assoc]; exact hs.symm⟩
    obtain ⟨field', hfield'⟩ := (exists_fieldsBy_singleton_iff hne).mpr hinfix
    have hall := joinFields_fieldsBy separator s
    have hcore := joinFields_fieldsBy separator (trimChars s)
    rw [h] at hall
    rw [hfield'] at hcore
    exact ⟨field', hfield', by rw [show field' = trimChars s from hcore,
      show field = s from hall, trimChars_trimChars]⟩
  -- Nothing is trimmed off the end, and what is trimmed off the start is in the first field.
  · have hnil : trail = [] := by
      rw [hs, ← List.append_assoc] at hlast
      exact eq_nil_of_getLast htrail hlast
    rw [hnil, List.append_nil] at hs
    rw [hs] at h
    obtain ⟨field', rfl, hcore⟩ := fieldsBy_of_append hne h hlead
    refine ⟨field', hcore, (trimChars_append_of_blank (fun c hc => ?_) field').symm⟩
    exact List.mem_takeWhile_imp hc

theorem marginsInFirst_of_fieldsBy_trimChars {field' : List Char} (hne : separator ≠ [])
    (h : fieldsBy separator s = field :: fs)
    (h' : fieldsBy separator (trimChars s) = field' :: fs) : MarginsInFirst s field fs := by
  have hall := joinFields_fieldsBy separator s
  have hcore := joinFields_fieldsBy separator (trimChars s)
  rw [h] at hall
  rw [h'] at hcore
  by_cases hfs : fs = []
  · subst hfs
    rw [show field = s from hall]
    exact ⟨(List.takeWhile_sublist _).length_le, .inl rfl⟩
  -- Both texts end with the other fields, and the trimmed one ends with no blank.
  · rw [joinFields_cons _ hfs, List.append_assoc] at hall hcore
    have hbehind : separator ++ joinFields separator fs ≠ [] := by simp [hne]
    generalize separator ++ joinFields separator fs = behind at hall hcore hbehind
    have hlast : ∀ c ∈ s.getLast?, isBlank c = false := by
      have htrimmed := getLast_trimChars s
      rw [← hcore, List.getLast?_append_of_ne_nil _ hbehind] at htrimmed
      rwa [← hall, List.getLast?_append_of_ne_nil _ hbehind]
    obtain ⟨trail, hs, htrail⟩ := eq_margins s
    have hnil : trail = [] := by
      rw [hs, ← List.append_assoc] at hlast
      exact eq_nil_of_getLast htrail hlast
    have hfield : field = s.takeWhile isBlank ++ field' := by
      rw [hnil, List.append_nil, ← hcore, ← List.append_assoc] at hs
      exact List.append_cancel_right (hall.trans hs)
    refine ⟨?_, .inr hlast⟩
    rw [hfield, List.length_append]
    exact Nat.le_add_right _ _

end Margins

end BrowserSuite.Text
