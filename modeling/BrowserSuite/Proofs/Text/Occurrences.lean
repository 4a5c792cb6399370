import BrowserSuite.Proofs.Text.Fields
import Mathlib.Data.List.Infix

/-!
# Occurrences of a separator

A text is cut at the occurrences of a separator from left to right; one that overlaps an
occurrence at which the text has been cut is passed over.  `Leftmost` says so without a word
about how they are found, and it says it of one list of places only (`Leftmost.unique`).

Between these places are the fields: there is one more of them than there are places
(`exists_leftmost`), and no field contains the separator (`not_infix_of_mem_fieldsBy`).  At a
separator of one character the two sides of a text are cut each for itself (`fieldsBy_append`), so
that fields written with it between them are cut apart again (`fieldsBy_joinFields`).  This fails
for longer separators: with `||` between them, `a|` and `b` are written as `a|||b`, which is cut
into `a` and `|b`.

A mark whose first character it has only once does not overlap itself in any text, so it is
found behind a text that it does not occur in, whatever that text ends with (`cut?_append`).
-/

namespace BrowserSuite.Text

variable {mark s : List Char} {starts others : List Nat} {c d : Char}

/-! ## Places -/

/-- The places where a mark occurs in a text, from left to right and without overlaps.  An
occurrence is left out only if it overlaps one that begins before it. -/
structure Leftmost (mark s : List Char) (starts : List Nat) : Prop where
  occurs : ∀ i ∈ starts, mark <+: s.drop i
  apart : starts.Pairwise fun i j => i + mark.length ≤ j
  covers : ∀ k, mark <+: s.drop k → ∃ i ∈ starts, i ≤ k ∧ k < i + mark.length

theorem leftmost_nil (hne : mark ≠ []) : Leftmost mark [] [] where
  occurs := nofun
  apart := .nil
  covers k hk := absurd (by simpa using hk) hne

/-- A character at which no mark begins moves all places by one. -/
theorem Leftmost.skip (h : Leftmost mark s starts) (hnot : ¬ mark <+: c :: s) :
    Leftmost mark (c :: s) (starts.map (· + 1)) where
  occurs := by simpa using h.occurs
  apart := List.pairwise_map.mpr (h.apart.imp fun hle => by omega)
  covers := by
    intro k hk
    cases k with
    | zero => exact absurd hk hnot
    | succ k =>
        obtain ⟨i, hi, hle, hlt⟩ := h.covers k hk
        exact ⟨i + 1, List.mem_map_of_mem hi, by omega, by omega⟩

/-- A mark at the start of a text is the first one, and the others are found behind it. -/
theorem Leftmost.first (h : Leftmost mark (s.drop mark.length) starts) (hstarts : mark <+: s) :
    Leftmost mark s (0 :: starts.map (· + mark.length)) where
  occurs := by
    intro i hi
    rcases List.mem_cons.mp hi with rfl | hi
    · exact hstarts
    · obtain ⟨j, hj, rfl⟩ := List.mem_map.mp hi
      have hdrop := h.occurs j hj
      rwa [List.drop_drop, Nat.add_comm] at hdrop
  apart := by
    refine List.pairwise_cons.mpr ⟨fun i hi => ?_, ?_⟩
    · obtain ⟨j, -, rfl⟩ := List.mem_map.mp hi
      omega
    · exact List.pairwise_map.mpr (h.apart.imp fun hle => by omega)
  covers := by
    intro k hk
    by_cases hlt : k < mark.length
    · exact ⟨0, List.mem_cons_self, Nat.zero_le k, by omega⟩
    · obtain ⟨j, rfl⟩ := Nat.exists_eq_add_of_le (Nat.le_of_not_lt hlt)
      obtain ⟨i, hi, hle, hbefore⟩ := h.covers j (by rwa [List.drop_drop])
      exact ⟨i + mark.length, List.mem_cons_of_mem _ (List.mem_map_of_mem hi), by omega, by omega⟩

/-- Places do not overlap, in whichever order they are taken. -/
theorem Leftmost.add_le (h : Leftmost mark s starts) {i j : Nat} (hi : i ∈ starts)
    (hj : j ∈ starts) (hlt : j < i) : j + mark.length ≤ i := by
  have hapart := List.pairwise_iff_getElem.mp h.apart
  obtain ⟨a, ha, rfl⟩ := List.mem_iff_getElem.mp hi
  obtain ⟨b, hb, rfl⟩ := List.mem_iff_getElem.mp hj
  rcases Nat.lt_trichotomy a b with hab | rfl | hba
  · have := hapart a b ha hb hab
    omega
  · exact absurd hlt (Nat.lt_irrefl _)
  · exact hapart b a hb ha hba

/-- Two lists of places agree from the left: the first place of one list that is not in the
other one would overlap an earlier place, which is in both. -/
theorem Leftmost.mem_iff (h : Leftmost mark s starts) (h' : Leftmost mark s others) (i : Nat) :
    i ∈ starts ↔ i ∈ others := by
  induction i using Nat.strong_induction_on with
  | _ i ih =>
      have hagree : ∀ {xs ys : List Nat}, Leftmost mark s xs → Leftmost mark s ys →
          (∀ j < i, j ∈ ys → j ∈ xs) → i ∈ xs → i ∈ ys := by
        intro xs ys hxs hys hearlier hi
        obtain ⟨j, hj, hle, hlt⟩ := hys.covers i (hxs.occurs i hi)
        rcases Nat.lt_or_eq_of_le hle with hbefore | rfl
        · have := hxs.add_le hi (hearlier j hbefore hj) hbefore
          omega
        · exact hj
      exact ⟨hagree h h' fun j hj => (ih j hj).mpr, hagree h' h fun j hj => (ih j hj).mp⟩

/-- A text has one list of such places. -/
theorem Leftmost.unique (hne : mark ≠ []) (h : Leftmost mark s starts)
    (h' : Leftmost mark s others) : starts = others := by
  have hpos : 0 < mark.length := List.length_pos_iff.mpr hne
  have hincreasing : ∀ {xs : List Nat}, Leftmost mark s xs → xs.Pairwise (· < ·) :=
    fun hxs => hxs.apart.imp fun hle => by omega
  have hperm : starts.Perm others :=
    (List.perm_ext_iff_of_nodup ((hincreasing h).imp Nat.ne_of_lt)
      ((hincreasing h').imp Nat.ne_of_lt)).mpr (h.mem_iff h')
  exact hperm.eq_of_pairwise (fun _ _ _ _ hlt hgt => absurd hlt (Nat.lt_asymm hgt))
    (hincreasing h) (hincreasing h')

/-! ## Fields between them -/

/-- A text has one field more than there are places at which it is cut. -/
theorem exists_leftmost (hne : mark ≠ []) (s : List Char) :
    ∃ starts, Leftmost mark s starts ∧ (fieldsBy mark s).length = starts.length + 1 := by
  induction s using fieldsBy.induct mark with
  | case1 => exact ⟨[], leftmost_nil hne, by rw [fieldsBy]; rfl⟩
  | case2 c rest h ih =>
      obtain ⟨starts, hstarts, hlength⟩ := ih
      have hbegins := List.isPrefixOf_iff_prefix.mp h.1
      exact ⟨_, hstarts.first hbegins, by simp [fieldsBy_cons_of_starts hne hbegins, hlength]⟩
  | case3 c rest h ih =>
      obtain ⟨starts, hstarts, hlength⟩ := ih
      have hnot : ¬ mark <+: c :: rest :=
        fun hbegins => h ⟨List.isPrefixOf_iff_prefix.mpr hbegins, hne⟩
      obtain ⟨field, fs, hfields⟩ := exists_fieldsBy_eq_cons mark rest
      refine ⟨_, hstarts.skip hnot, ?_⟩
      rw [hfields] at hlength
      simpa [fieldsBy_cons_of_not_starts hnot, hfields, pushFront] using hlength

/-- The first field is where the text begins. -/
theorem prefix_of_fieldsBy {field : List Char} {fs : List (List Char)}
    (h : fieldsBy mark s = field :: fs) : field <+: s := by
  have hjoin := joinFields_fieldsBy mark s
  rw [h] at hjoin
  by_cases hfs : fs = []
  · subst hfs
    rw [← show field = s from hjoin]
  · rw [joinFields_cons _ hfs, List.append_assoc] at hjoin
    exact ⟨_, hjoin⟩

/-- A separator is in no field. -/
theorem not_infix_of_mem_fieldsBy (hne : mark ≠ []) {field : List Char}
    (hmem : field ∈ fieldsBy mark s) : ¬ mark <:+: field := by
  induction s using fieldsBy.induct mark generalizing field with
  | case1 =>
      rw [fieldsBy, List.mem_singleton] at hmem
      rw [hmem]
      simpa using hne
  | case2 c rest h ih =>
      rw [fieldsBy_cons_of_starts hne (List.isPrefixOf_iff_prefix.mp h.1)] at hmem
      rcases List.mem_cons.mp hmem with rfl | hmem
      · simpa using hne
      · exact ih hmem
  | case3 c rest h ih =>
      have hnot : ¬ mark <+: c :: rest :=
        fun hbegins => h ⟨List.isPrefixOf_iff_prefix.mpr hbegins, hne⟩
      obtain ⟨first, fs, hfields⟩ := exists_fieldsBy_eq_cons mark rest
      rw [fieldsBy_cons_of_not_starts hnot, hfields, pushFront] at hmem
      rw [hfields] at ih
      rcases List.mem_cons.mp hmem with rfl | hmem
      -- A mark at the start of the longer field would be one at the start of the text.
      · rw [List.infix_cons_iff]
        rintro (hbegins | hinfix)
        · exact hnot (hbegins.trans
            ((List.prefix_cons_inj c).mpr (prefix_of_fieldsBy hfields)))
        · exact ih List.mem_cons_self hinfix
      · exact ih (List.mem_cons_of_mem _ hmem)

/-- A text is cut at a separator of one character wherever it stands, so its two sides are cut
each for itself. -/
theorem fieldsBy_append (s rest : List Char) :
    fieldsBy [d] (s ++ d :: rest) = fieldsBy [d] s ++ fieldsBy [d] rest := by
  have hcut : ∀ t, fieldsBy [d] (d :: t) = [] :: fieldsBy [d] t := fun t =>
    fieldsBy_cons_of_starts (List.cons_ne_nil _ _) (by simp)
  induction s with
  | nil =>
      rw [List.nil_append, hcut, fieldsBy]
      rfl
  | cons c s ih =>
      rw [List.cons_append]
      by_cases heq : d = c
      · rw [← heq, hcut, hcut, ih, List.cons_append]
      · obtain ⟨field, fs, hfields⟩ := exists_fieldsBy_eq_cons [d] s
        rw [fieldsBy_cons_of_not_starts (by simpa using heq),
          fieldsBy_cons_of_not_starts (by simpa using heq), ih, hfields]
        rfl

theorem fieldsBy_of_notMem {field : List Char} (h : d ∉ field) :
    fieldsBy [d] field = [field] := by
  obtain ⟨first, hfirst⟩ := (exists_fieldsBy_singleton_iff (List.cons_ne_nil d [])).mpr
    (by rwa [List.singleton_infix_iff])
  have hjoin := joinFields_fieldsBy [d] field
  rw [hfirst] at hjoin
  rw [hfirst, show first = field from hjoin]

theorem fieldsBy_append_of_notMem {field : List Char} (h : d ∉ field) (rest : List Char) :
    fieldsBy [d] (field ++ d :: rest) = field :: fieldsBy [d] rest := by
  rw [fieldsBy_append, fieldsBy_of_notMem h, List.singleton_append]

/-- Fields without a character are what is found between its occurrences. -/
theorem fieldsBy_joinFields {fs : List (List Char)} (hne : fs ≠ []) (h : ∀ f ∈ fs, d ∉ f) :
    fieldsBy [d] (joinFields [d] fs) = fs := by
  induction fs with
  | nil => exact absurd rfl hne
  | cons field fs ih =>
      have hfield := h field List.mem_cons_self
      cases fs with
      | nil => exact fieldsBy_of_notMem hfield
      | cons next fs =>
          rw [joinFields_cons field (List.cons_ne_nil _ _), List.append_assoc,
            List.singleton_append, fieldsBy_append_of_notMem hfield,
            ih (List.cons_ne_nil _ _) fun f hf => h f (List.mem_cons_of_mem _ hf)]

/-- What fields with a separator between them are, character by character. -/
theorem toList_join (separator : String) (texts : List String) :
    (join separator texts).toList =
      joinFields separator.toList (texts.map String.toList) := by
  rw [join, String.toList_intercalate]
  induction texts with
  | nil => rfl
  | cons text texts ih =>
      cases texts with
      | nil => exact List.intercalate_singleton
      | cons next texts =>
          rw [List.map_cons, List.map_cons, List.intercalate_cons_cons,
            joinFields_cons _ (List.cons_ne_nil _ _), ← List.map_cons, ih]

theorem split_eq {separator : String} (h : separator ≠ "") (text : String) :
    split separator text = (fieldsBy separator.toList text.toList).map String.ofList := by
  rw [split, fields, if_neg (by simpa using h)]

/-- The fields of a text with the separator between them are the text again. -/
theorem join_split {separator : String} (h : separator ≠ "") (text : String) :
    join separator (split separator text) = text := by
  have hfields : String.toList ∘ String.ofList = id := funext fun _ => String.toList_ofList
  rw [← String.toList_inj, toList_join, split_eq h, List.map_map, hfields, List.map_id,
    joinFields_fieldsBy]

/-- Texts without a character are what is found between its occurrences. -/
theorem split_join {texts : List String} (hne : texts ≠ []) (h : ∀ text ∈ texts, d ∉ text.toList) :
    split (String.singleton d) (join (String.singleton d) texts) = texts := by
  have hfree : ∀ f ∈ texts.map String.toList, d ∉ f := by
    intro f hf
    obtain ⟨text, htext, rfl⟩ := List.mem_map.mp hf
    exact h text htext
  rw [split_eq (by simp [← String.toList_inj]), toList_join, String.toList_singleton,
    fieldsBy_joinFields (by simpa using hne) hfree, List.map_map]
  exact List.map_id'' (fun text => String.ofList_toList) texts

-- A longer separator can begin in the end of a text.
example : split "||" (join "||" ["a|", "b"]) = ["a", "|b"] := by decide +kernel

/-! ## Marks that begin like nothing in them -/

section Marks

variable {m : Char} {ms rest : List Char}

/-- No such mark begins in a text and ends in the next one, if that begins like the mark. -/
theorem prefix_of_prefix_append (hm : m ∉ ms) (hne : s ≠ []) (hrest : ∀ c ∈ rest.head?, c = m)
    (h : m :: ms <+: s ++ rest) : m :: ms <+: s := by
  obtain ⟨behind, hbehind⟩ := h
  rcases List.append_eq_append_iff.mp hbehind with ⟨more, rfl, -⟩ | ⟨beyond, hbeyond, hbegins⟩
  · exact List.prefix_append _ _
  · obtain ⟨c, s, rfl⟩ := List.exists_cons_of_ne_nil hne
    cases beyond with
    | nil => exact ⟨[], by rw [hbeyond, List.append_nil, List.append_nil]⟩
    -- The mark would go on in the next text with its own first character.
    | cons x beyond =>
        have hx : x = m := hrest x (by rw [hbegins]; rfl)
        have hms : ms = s ++ x :: beyond := (List.cons.inj hbeyond).2
        exact absurd (by rw [hms, hx]; simp) hm

/-- A text is cut at the mark that is written behind it. -/
theorem cut?_append (hm : m ∉ ms) (hfree : ¬ m :: ms <:+: s) (rest : List Char) :
    cut? (m :: ms) (s ++ (m :: ms ++ rest)) = some (s, rest) := by
  induction s with
  | nil => simp [cut?]
  | cons c s ih =>
      have hnot : ¬ m :: ms <+: c :: s ++ (m :: ms ++ rest) := fun h =>
        hfree (prefix_of_prefix_append hm (List.cons_ne_nil c s) (by simp) h).isInfix
      have hbehind := ih fun h => hfree (h.trans (List.suffix_cons c s).isInfix)
      rw [List.cons_append] at hnot ⊢
      rw [cut?, if_neg (fun h => hnot (List.isPrefixOf_iff_prefix.mp h)), hbehind]
      rfl

end Marks

end BrowserSuite.Text
