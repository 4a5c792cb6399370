import BrowserSuite.Proofs.Text.Occurrences
import BrowserSuite.UiMap.FilterExport

/-!
# Reading back the keys of an export

A filter export is written as keys with other text around them.  What is read from it are the
texts of its keys, in order, whatever stands in these texts short of the tag that closes a key,
and whatever stands between the keys short of a tag that opens one (`keys_write`).

## Strategy

An export is read from left to right, so it is enough to say what happens at its parts.  Text
between keys is passed over (`elements_filler`), and a key is read to its end, whereupon the
search goes on behind it (`elements_key`).  Both rest on the fact that a tag cannot begin in one
part and end in the next: the only `<` of a tag is its first character.
-/

namespace BrowserSuite.FilterExport

/-! ## What an export is made of -/

/-- No key begins in a text: where `<key` occurs in it, it is the start of a longer name. -/
def OpensNone (s : List Char) : Prop :=
  ∀ before after, s = before ++ opening ++ after → ∃ c ∈ after.head?, Text.isWord c

theorem opensNone_nil : OpensNone [] := by
  intro before after heq
  have hlength := congrArg List.length heq
  simp [opening] at hlength

theorem opensNone_cons_iff {c : Char} {s : List Char} :
    OpensNone (c :: s) ↔
      (∀ after, c :: s = opening ++ after → ∃ d ∈ after.head?, Text.isWord d) ∧ OpensNone s := by
  constructor
  · intro h
    exact ⟨h [], fun before after heq => h (c :: before) after (by rw [heq]; rfl)⟩
  · rintro ⟨hstart, hrest⟩ before after heq
    cases before with
    | nil => exact hstart after heq
    | cons d before => exact hrest before after (List.cons.inj heq).2

/-- A text in which no key begins. -/
structure Filler where
  text : List Char
  opensNone : OpensNone text

/-- A key as an export lists it.  What its first tag holds besides the name is set off from it,
and its text ends where the next `</key>` is. -/
structure Key where
  attributes : List Char
  text : List Char
  spaced : ∀ c ∈ attributes.head?, Text.isBlank c
  inTag : '>' ∉ attributes
  unclosed : ¬ closing <:+: text

/-- A key as it is written. -/
def Key.write (key : Key) : List Char :=
  opening ++ key.attributes ++ '>' :: key.text ++ closing

/-- Keys as they are written, each with the text that follows it. -/
def writeAll (keys : List (Key × Filler)) : List Char :=
  keys.flatMap fun listed => listed.1.write ++ listed.2.text

/-- An export as it is written. -/
def write (start : Filler) (keys : List (Key × Filler)) : String :=
  String.ofList (start.text ++ writeAll keys)

/-! ## Tags -/

/-- The table of word characters, gone through from its start. -/
theorem isWord_eq_any (c : Char) :
    Text.isWord c =
      Text.wordRanges.toList.any fun range => range.1 ≤ c.toNat && c.toNat ≤ range.2 :=
  Array.any_toList.symm

/-- The blanks as a table like that of the word characters. -/
def blankRanges : List (Nat × Nat) :=
  [(9, 13), (0x20, 0x20), (0x85, 0x85), (0xA0, 0xA0), (0x1680, 0x1680), (0x2000, 0x200A),
    (0x2028, 0x2029), (0x202F, 0x202F), (0x205F, 0x205F), (0x3000, 0x3000)]

theorem exists_blankRange {c : Char} (h : Text.isBlank c) :
    ∃ blanks ∈ blankRanges, blanks.1 ≤ c.toNat ∧ c.toNat ≤ blanks.2 := by
  simp only [Text.isBlank, Bool.or_eq_true, Bool.and_eq_true, decide_eq_true_eq,
    beq_iff_eq] at h
  simp only [blankRanges, List.mem_cons, List.not_mem_nil, or_false, exists_eq_or_imp,
    exists_eq_left]
  omega

/-- A blank does not belong to a word, so it ends the name of a tag. -/
theorem isWord_of_isBlank {c : Char} (h : Text.isBlank c) : Text.isWord c = false := by
  have hapart : (Text.wordRanges.toList.all fun range =>
      blankRanges.all fun blanks => range.2 < blanks.1 || blanks.2 < range.1) := by decide +kernel
  obtain ⟨blanks, hblanks, hfrom, hto⟩ := exists_blankRange h
  rw [isWord_eq_any, List.any_eq_false]
  intro range hrange hin
  have hdisjoint := List.all_eq_true.mp (List.all_eq_true.mp hapart range hrange) blanks hblanks
  simp only [Bool.or_eq_true, Bool.and_eq_true, decide_eq_true_eq] at hdisjoint hin
  omega

/-- The name of a key's tag ends behind `<key`. -/
theorem Key.isWord_head (key : Key) (s : List Char) :
    ((key.attributes ++ '>' :: s).head?.any Text.isWord) = false := by
  cases hattributes : key.attributes with
  | nil =>
      rw [List.nil_append, List.head?_cons, Option.any_some, isWord_eq_any]
      decide +kernel
  | cons c attributes =>
      have hblank := key.spaced c (by rw [hattributes]; rfl)
      rw [List.cons_append, List.head?_cons, Option.any_some]
      exact isWord_of_isBlank hblank

theorem dropWhile_tag {attributes : List Char} (h : '>' ∉ attributes) (s : List Char) :
    (attributes ++ '>' :: s).dropWhile (· ≠ '>') = '>' :: s := by
  have hbefore : ∀ c ∈ attributes, decide (c ≠ '>') = true :=
    fun c hc => decide_eq_true fun heq => h (heq ▸ hc)
  rw [List.dropWhile_append_of_pos hbefore]
  simp

/-- Behind `<key`, a key is read up to the tag that closes it. -/
theorem element?_key (key : Key) (rest : List Char) :
    element? (key.attributes ++ '>' :: key.text ++ closing ++ rest) = some (key.text, rest) := by
  have hshape : key.attributes ++ '>' :: key.text ++ closing ++ rest =
      key.attributes ++ '>' :: (key.text ++ (closing ++ rest)) := by simp
  rw [hshape, element?, key.isWord_head, if_neg Bool.false_ne_true,
    dropWhile_tag key.inTag, List.drop_one, List.tail_cons]
  exact Text.cut?_append (by decide) key.unclosed rest

/-! ## Parts of an export -/

theorem elements_key (key : Key) (rest : List Char) :
    elements (key.write ++ rest) = key.text :: elements rest := by
  have hshape : key.write ++ rest =
      '<' :: (['k', 'e', 'y'] ++ (key.attributes ++ '>' :: key.text ++ closing ++ rest)) := by
    simp [Key.write, opening]
  rw [hshape, elements, if_pos (by simp [opening])]
  have hdrop : (['k', 'e', 'y'] ++ (key.attributes ++ '>' :: key.text ++ closing ++ rest)).drop
      (opening.length - 1) = key.attributes ++ '>' :: key.text ++ closing ++ rest := rfl
  rw [hdrop]
  split
  · rename_i text after h
    rw [element?_key, Option.some.injEq, Prod.mk.injEq] at h
    rw [h.1, h.2]
  · rename_i h
    rw [element?_key] at h
    cases h

/-- A name that goes on behind `<key` is not that of a key. -/
theorem element?_eq_none {s : List Char} (h : ∃ c ∈ s.head?, Text.isWord c) :
    element? s = none := by
  obtain ⟨c, hc, hword⟩ := h
  rw [Option.mem_def] at hc
  rw [element?, hc, Option.any_some, if_pos hword]

/-- Text in which no key begins is passed over, up to the next key or the end. -/
theorem elements_filler {s rest : List Char} (h : OpensNone s)
    (hrest : ∀ c ∈ rest.head?, c = '<') : elements (s ++ rest) = elements rest := by
  induction s with
  | nil => rfl
  | cons c s ih =>
      obtain ⟨hstart, hs⟩ := opensNone_cons_iff.mp h
      rw [List.cons_append, elements]
      split
      · rename_i hopens
        -- The whole tag is in the text, so its name goes on there.
        obtain ⟨after, hafter⟩ := Text.prefix_of_prefix_append (by decide)
          (List.cons_ne_nil c s) hrest (List.isPrefixOf_iff_prefix.mp hopens)
        obtain ⟨d, hd, hword⟩ := hstart after hafter.symm
        have hdrop : (s ++ rest).drop (opening.length - 1) = after ++ rest := by
          rw [← (List.cons.inj hafter).2]
          rfl
        have hnone : element? (after ++ rest) = none :=
          element?_eq_none ⟨d, List.mem_head?_append_of_mem_head? hd, hword⟩
        rw [hdrop]
        split
        · rename_i text behind hsome
          rw [hnone] at hsome
          cases hsome
        · exact ih hs
      · exact ih hs

/-- What follows a text between keys is the tag of the next key, or nothing. -/
theorem head?_writeAll (keys : List (Key × Filler)) : ∀ c ∈ (writeAll keys).head?, c = '<' := by
  intro c hc
  cases keys with
  | nil => cases hc
  | cons listed keys => exact (Option.some.inj hc).symm

theorem elements_writeAll (keys : List (Key × Filler)) :
    elements (writeAll keys) = keys.map fun listed => listed.1.text := by
  induction keys with
  | nil => simp [writeAll, elements]
  | cons listed keys ih =>
      have hshape : writeAll (listed :: keys) =
          listed.1.write ++ (listed.2.text ++ writeAll keys) := by simp [writeAll]
      rw [hshape, elements_key, elements_filler listed.2.opensNone (head?_writeAll keys), ih,
        List.map_cons]

/-- The keys of an export are read back: the texts of its keys in order, as often as they are
listed, without the blanks around them, and without those of which nothing is left. -/
theorem keys_write (start : Filler) (listed : List (Key × Filler)) :
    keys (write start listed) =
      (listed.map fun key => Text.trim (String.ofList key.1.text)).filter (· ≠ "") := by
  have htrim : ∀ s : List Char,
      Text.trim (String.ofList s) = String.ofList (Text.trimChars s) := fun s => by
    rw [Text.trim, String.toList_ofList]
  rw [keys, write, String.toList_ofList,
    elements_filler start.opensNone (head?_writeAll listed), elements_writeAll, List.map_map]
  simp only [htrim]
  rfl

/-- An export with a longer name, attributes, a tag within a key, and a key without a text. -/
theorem keys_write_issues :
    ∃ start listed,
      write start listed =
        "<rss><keyword/>\n<key id=\"10\">\n a<b>c </key>, <key></key><key>login</key></rss>" ∧
      keys (write start listed) = ["a<b>c", "login"] := by
  have hstart : OpensNone "<rss><keyword/>\n".toList := by
    have hword : Text.isWord 'w' := by
      rw [isWord_eq_any]
      decide +kernel
    simp [opensNone_cons_iff, opensNone_nil, opening, hword]
  have hend : OpensNone "</rss>".toList := by
    simp [opensNone_cons_iff, opensNone_nil, opening]
  have hcomma : OpensNone ", ".toList := by simp [opensNone_cons_iff, opensNone_nil, opening]
  have hblank : ∀ c ∈ " id=\"10\"".toList.head?, Text.isBlank c := by
    rintro c ⟨⟩
    decide
  refine ⟨⟨_, hstart⟩, [
    (⟨_, "\n a<b>c ".toList, hblank, by decide, by decide⟩, ⟨_, hcomma⟩),
    (⟨[], [], nofun, by decide, by decide⟩, ⟨[], opensNone_nil⟩),
    (⟨[], "login".toList, nofun, by decide, by decide⟩, ⟨_, hend⟩)], rfl, ?_⟩
  have hkept : (["\n a<b>c ", "", "login"].map Text.trim).filter (· ≠ "") =
      ["a<b>c", "login"] := by decide +kernel
  rw [keys_write]
  exact hkept

end BrowserSuite.FilterExport
