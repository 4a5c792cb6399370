import BrowserSuite.WebDriver.Host
import Mathlib.Data.List.TakeWhile

/-!
# Reading style rules

A search by a style rule sends a text that the browser reads by rules of its own.  Here is how
it reads the rules that a session sends: selectors with commas between them, each with an
optional tag and one test, which asks for the value of an attribute or for an identifier.  A
value stands in double quotes and ends at the next one, and an identifier ends where a character
cannot go on with it; in both, a backslash escapes what follows it.  Any other text is not read
at all.

## Main results

* Whatever is read as a string is at least as long as its value, and if it is not longer, it is
  the value, character by character (`exists_raw_of_string?`).
* A value without a character that means something else in a string is read from its own text
  (`string?_append`), and so is an identifier (`identifier?_append`).
* No list of selectors is shorter than what it says (`size_le_of_selectors?`).
-/

namespace BrowserSuite.Style

/-! ## Characters -/

/-- The character that stands for one that a rule cannot hold. -/
def replacement : Char := '\uFFFD'

/-- The characters of a rule as they are read.  Every end of a line is a line feed. -/
def preprocess : List Char → List Char
  | [] => []
  | '\r' :: '\n' :: rest => '\n' :: preprocess rest
  | c :: rest =>
    let c := if c = '\r' ∨ c = '\x0C' then '\n' else if c = '\x00' then replacement else c
    c :: preprocess rest

/-- The blanks of a rule. -/
def isBlank (c : Char) : Bool := c == ' ' || c == '\t' || c == '\n'

/-- What comes after some blanks. -/
def skip (s : List Char) : List Char := s.dropWhile isBlank

/-- Whether an identifier can begin with a character. -/
def isNameStart (c : Char) : Bool := c.isAlpha || c == '_' || 0x80 ≤ c.toNat

/-- Whether an identifier can go on with a character. -/
def isNamePart (c : Char) : Bool := isNameStart c || c.isDigit || c == '-'

/-- Whether a character is a hexadecimal digit. -/
def isHexDigit (c : Char) : Bool := (WebDriver.hexDigitValue? c).isSome

/-- The character of a code point in up to six hexadecimal digits. -/
def ofHexDigits (digits : List Char) : Char :=
  match Char.ofNat ((WebDriver.numberIn? 16 digits).getD 0) with
  | '\x00' => replacement
  | c => c

/-- The character that is escaped by a backslash in front of a text, and the rest.  A blank ends
the digits of a code point and belongs to them. -/
def escape : List Char → Char × List Char
  | [] => (replacement, [])
  | c :: rest =>
    if isHexDigit c then
      let digits := (rest.take 5).takeWhile isHexDigit
      let rest := rest.drop digits.length
      (ofHexDigits (c :: digits), if rest.head?.any isBlank then rest.tail else rest)
    else (c, rest)

/-- Whether an escape begins a text. -/
def startsEscape : List Char → Bool
  | '\\' :: rest => rest.head? != some '\n'
  | _ => false

/-- An escape takes a character, at least. -/
theorem escape_suffix (c : Char) (rest : List Char) : (escape (c :: rest)).2 <:+ rest := by
  rw [escape]
  split
  · simp only
    split
    · exact (List.tail_suffix _).trans (List.drop_suffix _ _)
    · exact List.drop_suffix _ _
  · exact List.suffix_rfl

theorem length_escape_le (s : List Char) : (escape s).2.length ≤ s.length := by
  cases s with
  | nil => exact Nat.le_refl _
  | cons c rest => exact Nat.le_succ_of_le (escape_suffix c rest).length_le

/-! ## Strings and identifiers -/

/-- The value of a string, read behind its first quote, and the text behind its last one.  A
string does not go beyond the end of a line, except behind a backslash. -/
def string? : List Char → Option (List Char × List Char)
  | [] => none
  | c :: rest =>
    if c = '"' then some ([], rest)
    else if c = '\n' then none
    else if c = '\\' then
      if rest.head? = some '\n' then string? rest.tail
      else (string? (escape rest).2).map fun read => ((escape rest).1 :: read.1, read.2)
    else (string? rest).map fun read => (c :: read.1, read.2)
termination_by s => s.length
decreasing_by
  · simp only [List.length_tail, List.length_cons]
    omega
  · exact Nat.lt_succ_of_le (length_escape_le rest)
  · simp

/-- The longest name at the start of a text, and the rest. -/
def name : List Char → List Char × List Char
  | [] => ([], [])
  | c :: rest =>
    if isNamePart c then (c :: (name rest).1, (name rest).2)
    else if startsEscape (c :: rest) then
      ((escape rest).1 :: (name (escape rest).2).1, (name (escape rest).2).2)
    else ([], c :: rest)
termination_by s => s.length
decreasing_by
  · simp
  · exact Nat.lt_succ_of_le (length_escape_le rest)

/-- Whether an identifier begins a text. -/
def startsName : List Char → Bool
  | [] => false
  | c :: rest =>
    if c = '-' then (rest.head?.any fun d => isNameStart d || d == '-') || startsEscape rest
    else isNameStart c || startsEscape (c :: rest)

/-- The identifier at the start of a text, and the rest. -/
def identifier? (s : List Char) : Option (List Char × List Char) :=
  if startsName s then some (name s) else none

/-! ## Selectors -/

/-- What is asked of an element. -/
inductive Test where
  /-- That an attribute has a value. -/
  | equals (name value : String)
  /-- That the element has an identifier. -/
  | id (value : String)
  deriving DecidableEq, Repr

/-- The elements that pass a test, of one tag or of any. -/
structure Selector where
  tag : Option String
  test : Test
  deriving DecidableEq, Repr

/-- What comes after a character that has to stand at the start of a text. -/
def expect? (c : Char) : List Char → Option (List Char)
  | [] => none
  | d :: rest => if d = c then some rest else none

/-- The test at the start of a text, and the rest. -/
def test? : List Char → Option (Test × List Char)
  | '#' :: rest => do
    let (value, rest) ← identifier? rest
    some (.id (String.ofList value), rest)
  | '[' :: rest => do
    let (name, rest) ← identifier? (skip rest)
    let rest ← expect? '=' (skip rest)
    let rest ← expect? '"' (skip rest)
    let (value, rest) ← string? rest
    let rest ← expect? ']' (skip rest)
    some (.equals (String.ofList name) (String.ofList value), rest)
  | _ => none

/-- The tag at the start of a text, if there is one, and the rest. -/
def tag (s : List Char) : Option String × List Char :=
  match identifier? s with
  | some (tag, rest) => (some (String.ofList tag), rest)
  | none => (none, s)

/-- The selector at the start of a text, and the rest. -/
def selector? (s : List Char) : Option (Selector × List Char) := do
  let (test, rest) ← test? (tag s).2
  some (⟨(tag s).1, test⟩, rest)

/-! ## How much is read -/

/-- How many characters a test has at least. -/
def Test.size : Test → Nat
  | equals name value => name.length + value.length + 5
  | id value => value.length + 1

/-- How many characters a selector has at least. -/
def Selector.size (s : Selector) : Nat := (s.tag.getD "").length + s.test.size

theorem length_skip_le (s : List Char) : (skip s).length ≤ s.length :=
  (List.dropWhile_sublist _).length_le

theorem eq_cons_of_expect? {c : Char} {s rest : List Char} (h : expect? c s = some rest) :
    s = c :: rest := by
  cases s with
  | nil => cases h
  | cons d s =>
      rw [expect?] at h
      split at h
      · rename_i heq
        rw [heq, Option.some.inj h]
      · cases h

theorem length_of_expect?_skip {c : Char} {s rest : List Char}
    (h : expect? c (skip s) = some rest) : rest.length + 1 ≤ s.length := by
  have hle := length_skip_le s
  rw [eq_cons_of_expect? h] at hle
  exact hle

/-- A character that means itself in a string. -/
def IsPlain (c : Char) : Prop := c ≠ '"' ∧ c ≠ '\\' ∧ c ≠ '\n'

section Strings

variable {c : Char} {s rest value : List Char}

theorem string?_quote (rest : List Char) : string? ('"' :: rest) = some ([], rest) := by
  rw [string?, if_pos rfl]

theorem string?_feed (rest : List Char) : string? ('\n' :: rest) = none := by
  rw [string?, if_neg (by decide), if_pos rfl]

theorem string?_continued (rest : List Char) : string? ('\\' :: '\n' :: rest) = string? rest := by
  rw [string?, if_neg (by decide), if_neg (by decide), if_pos rfl, if_pos List.head?_cons,
    List.tail_cons]

theorem string?_escape (h : rest.head? ≠ some '\n') :
    string? ('\\' :: rest) =
      (string? (escape rest).2).map fun read => ((escape rest).1 :: read.1, read.2) := by
  rw [string?, if_neg (by decide), if_neg (by decide), if_pos rfl, if_neg h]

theorem string?_plain (hc : IsPlain c) (rest : List Char) :
    string? (c :: rest) = (string? rest).map fun read => (c :: read.1, read.2) := by
  rw [string?, if_neg hc.1, if_neg hc.2.2, if_neg hc.2.1]

/-- A string is as long as its value, at least.  If it is no longer, it is its value. -/
theorem exists_raw_of_string? (h : string? s = some (value, rest)) :
    ∃ raw, s = raw ++ '"' :: rest ∧ value.length ≤ raw.length ∧
      (raw.length ≤ value.length → raw = value ∧ ∀ c ∈ value, IsPlain c) := by
  induction s using string?.induct generalizing value with
  | case1 =>
      rw [string?] at h
      cases h
  | case2 behind =>
      rw [string?_quote] at h
      cases h
      exact ⟨[], rfl, Nat.le_refl _, fun _ => ⟨rfl, nofun⟩⟩
  | case3 behind =>
      rw [string?_feed] at h
      cases h
  | case4 behind hfeed _ _ ih =>
      obtain ⟨behind, rfl⟩ := List.head?_eq_some_iff.mp hfeed
      rw [string?_continued] at h
      obtain ⟨raw, hraw, hle, -⟩ := ih h
      rw [List.tail_cons] at hraw
      refine ⟨'\\' :: '\n' :: raw, by rw [hraw]; rfl, ?_, fun hge => ?_⟩
      · simp only [List.length_cons]
        omega
      · simp only [List.length_cons] at hge
        omega
  | case5 behind hfeed _ _ ih =>
      rw [string?_escape hfeed, Option.map_eq_some_iff] at h
      obtain ⟨⟨tail, rest'⟩, hread, heq⟩ := h
      cases heq
      obtain ⟨raw, hraw, hle, -⟩ := ih hread
      cases behind with
      | nil =>
          rw [escape, string?] at hread
          cases hread
      -- An escape is longer than the one character that it stands for.
      | cons d behind =>
          obtain ⟨used, hused⟩ := escape_suffix d behind
          refine ⟨'\\' :: d :: (used ++ raw), ?_, ?_, fun hge => ?_⟩
          · rw [← hused, hraw]
            simp
          · simp only [List.length_cons, List.length_append]
            omega
          · simp only [List.length_cons, List.length_append] at hge
            omega
  | case6 c behind hquote hfeed hslash ih =>
      have hplain : IsPlain c := ⟨hquote, hslash, hfeed⟩
      rw [string?_plain hplain, Option.map_eq_some_iff] at h
      obtain ⟨⟨tail, rest'⟩, hread, heq⟩ := h
      cases heq
      obtain ⟨raw, hraw, hle, hexact⟩ := ih hread
      refine ⟨c :: raw, by rw [hraw, List.cons_append], Nat.succ_le_succ hle, fun hge => ?_⟩
      obtain ⟨rfl, hall⟩ := hexact (Nat.le_of_succ_le_succ hge)
      exact ⟨rfl, List.forall_mem_cons.mpr ⟨hplain, hall⟩⟩

/-- A value of plain characters is read from its own text. -/
theorem string?_append (h : ∀ c ∈ value, IsPlain c) (rest : List Char) :
    string? (value ++ '"' :: rest) = some (value, rest) := by
  induction value with
  | nil => exact string?_quote rest
  | cons c value ih =>
      obtain ⟨hc, hvalue⟩ := List.forall_mem_cons.mp h
      rw [List.cons_append, string?_plain hc, ih hvalue]
      rfl

end Strings

section Identifiers

variable {s rest value : List Char}

/-- A text with which no name goes on. -/
def EndsName (s : List Char) : Prop := ∀ c ∈ s.head?, isNamePart c = false ∧ c ≠ '\\'

/-- An identifier that is written without escapes. -/
def IsIdentifier (s : List Char) : Prop := startsName s ∧ ∀ c ∈ s, isNamePart c

instance (s : List Char) : Decidable (IsIdentifier s) :=
  decidable_of_iff (startsName s ∧ s.all isNamePart) (by rw [IsIdentifier, List.all_eq_true])

theorem startsEscape_eq_false (h : s.head? ≠ some '\\') : startsEscape s = false := by
  unfold startsEscape
  split
  · exact absurd rfl h
  · rfl

theorem EndsName.startsEscape_eq_false (h : EndsName s) : startsEscape s = false :=
  Style.startsEscape_eq_false fun hslash => (h _ hslash).2 rfl

theorem EndsName.startsName_eq_false (h : EndsName s) : startsName s = false := by
  cases s with
  | nil => rfl
  | cons c s =>
      have hpart := (h c rfl).1
      rw [isNamePart, Bool.or_eq_false_iff, Bool.or_eq_false_iff, beq_eq_false_iff_ne] at hpart
      rw [startsName, if_neg hpart.2, hpart.1.1, h.startsEscape_eq_false, Bool.or_self]

theorem EndsName.name_eq (h : EndsName s) : name s = ([], s) := by
  cases s with
  | nil => rw [name]
  | cons c s =>
      rw [name, if_neg (by simp [(h c rfl).1]), if_neg (by simp [h.startsEscape_eq_false])]

/-- A name without escapes is read up to the first character with which it cannot go on. -/
theorem name_append (hslash : '\\' ∉ s) (hrest : EndsName rest) :
    name (s ++ rest) = (s.takeWhile isNamePart, s.dropWhile isNamePart ++ rest) := by
  induction s with
  | nil => exact hrest.name_eq
  | cons c s ih =>
      by_cases hc : isNamePart c
      · rw [List.cons_append, name, if_pos hc, ih fun h => hslash (List.mem_cons_of_mem _ h)]
        simp [hc]
      · have hends : EndsName (c :: s ++ rest) := by
          intro d hd
          cases hd
          exact ⟨by simpa using hc, fun h => hslash (h ▸ List.mem_cons_self)⟩
        rw [hends.name_eq]
        simp [hc]

/-- Whether a name begins a text is seen from the text, if it has no escapes. -/
theorem startsName_append (hslash : '\\' ∉ s) (hrest : EndsName rest) :
    startsName (s ++ rest) = startsName s := by
  have hplain : ∀ {t : List Char}, '\\' ∉ t → startsEscape (t ++ rest) = startsEscape t := by
    intro t ht
    cases t with
    | nil => exact hrest.startsEscape_eq_false
    | cons d t =>
        have hne : ∀ u : List Char, (d :: u).head? ≠ some '\\' := fun u h =>
          ht (Option.some.inj h ▸ List.mem_cons_self)
        rw [List.cons_append, Style.startsEscape_eq_false (hne _),
          Style.startsEscape_eq_false (hne _)]
  cases s with
  | nil => exact hrest.startsName_eq_false
  | cons c s =>
      have hescape := hplain hslash
      have hbehind := hplain fun h => hslash (List.mem_cons_of_mem c h)
      rw [List.cons_append] at hescape ⊢
      rw [startsName, startsName, hescape, hbehind]
      cases s with
      | cons d s => rfl
      | nil =>
          have hnone : (rest.head?.any fun d => isNameStart d || d == '-') = false := by
            cases rest with
            | nil => rfl
            | cons d rest =>
                have hpart := (hrest d rfl).1
                rw [isNamePart, Bool.or_eq_false_iff, Bool.or_eq_false_iff] at hpart
                simp [hpart.1.1, hpart.2]
          rw [List.nil_append, hnone]
          rfl

theorem IsIdentifier.slash_notMem (h : IsIdentifier s) : '\\' ∉ s := by
  intro hmem
  have hpart := h.2 _ hmem
  revert hpart
  decide

theorem identifier?_append (h : IsIdentifier s) (hrest : EndsName rest) :
    identifier? (s ++ rest) = some (s, rest) := by
  have htake : s.takeWhile isNamePart = s := List.takeWhile_eq_self_iff.mpr h.2
  have hdrop : s.dropWhile isNamePart = [] := List.dropWhile_eq_nil_iff.mpr h.2
  rw [identifier?, startsName_append h.slash_notMem hrest, if_pos h.1,
    name_append h.slash_notMem hrest, htake, hdrop, List.nil_append]

/-- A text without escapes that is read as itself is an identifier. -/
theorem isIdentifier_of_identifier? (hslash : '\\' ∉ s) (hrest : EndsName rest)
    {behind : List Char} (h : identifier? (s ++ rest) = some (s, behind)) : IsIdentifier s := by
  rw [identifier?, startsName_append hslash hrest, name_append hslash hrest] at h
  split at h
  · rename_i hstarts
    have htake : s.takeWhile isNamePart = s := (Prod.mk.inj (Option.some.inj h)).1
    exact ⟨hstarts, List.takeWhile_eq_self_iff.mp htake⟩
  · cases h

end Identifiers

/-! ## Lists of selectors -/

theorem length_string?_le {s value rest : List Char} (h : string? s = some (value, rest)) :
    value.length + rest.length + 1 ≤ s.length := by
  obtain ⟨raw, rfl, hle, -⟩ := exists_raw_of_string? h
  simp only [List.length_append, List.length_cons]
  omega

theorem length_name_le (s : List Char) : (name s).1.length + (name s).2.length ≤ s.length := by
  induction s using name.induct with
  | case1 =>
      rw [name]
      exact Nat.le_refl _
  | case2 c rest hpart ih =>
      rw [name, if_pos hpart]
      simp only [List.length_cons]
      omega
  | case3 c rest hpart hescape ih =>
      have hle := length_escape_le rest
      rw [name, if_neg hpart, if_pos hescape]
      simp only [List.length_cons]
      omega
  | case4 c rest hpart hescape =>
      rw [name, if_neg hpart, if_neg hescape]
      simp

theorem length_identifier?_le {s value rest : List Char}
    (h : identifier? s = some (value, rest)) : value.length + rest.length ≤ s.length := by
  have hle := length_name_le s
  rw [identifier?] at h
  split at h
  · rwa [Option.some.inj h] at hle
  · cases h

theorem length_tag_le (s : List Char) :
    ((tag s).1.getD "").length + (tag s).2.length ≤ s.length := by
  rw [tag]
  split
  · rename_i value rest h
    simpa using length_identifier?_le h
  · simp

theorem length_test?_le {s rest : List Char} {test : Test} (h : test? s = some (test, rest)) :
    test.size + rest.length ≤ s.length := by
  unfold test? at h
  split at h
  · rename_i s
    simp only [Option.bind_eq_bind, Option.bind_eq_some_iff, Option.some.injEq,
      Prod.mk.injEq, Prod.exists] at h
    obtain ⟨value, rest', hvalue, rfl, rfl⟩ := h
    have hle := length_identifier?_le hvalue
    simp only [Test.size, String.length_ofList, List.length_cons]
    omega
  · rename_i s
    simp only [Option.bind_eq_bind, Option.bind_eq_some_iff, Option.some.injEq,
      Prod.mk.injEq, Prod.exists] at h
    obtain ⟨name, s₁, hname, s₂, hequals, s₃, hquote, value, s₄, hvalue, s₅, hclose, rfl, rfl⟩ := h
    have hskip := length_skip_le s
    have hname := length_identifier?_le hname
    have hequals := length_of_expect?_skip hequals
    have hquote := length_of_expect?_skip hquote
    have hvalue := length_string?_le hvalue
    have hclose := length_of_expect?_skip hclose
    simp only [Test.size, String.length_ofList, List.length_cons]
    omega
  · cases h

/-- No selector is shorter than what it says. -/
theorem length_selector?_le {s rest : List Char} {selector : Selector}
    (h : selector? s = some (selector, rest)) : selector.size + rest.length ≤ s.length := by
  simp only [selector?, Option.bind_eq_bind, Option.bind_eq_some_iff, Option.some.injEq,
    Prod.mk.injEq, Prod.exists] at h
  obtain ⟨test, rest', htest, rfl, rfl⟩ := h
  have htag := length_tag_le s
  have htest := length_test?_le htest
  simp only [Selector.size]
  omega

theorem Selector.size_pos (s : Selector) : 0 < s.size := by
  cases s with
  | mk tag test => cases test <;> simp only [Selector.size, Test.size] <;> omega

/-- The selectors of a text that has nothing else. -/
def selectors? (s : List Char) : Option (List Selector) :=
  match _h : selector? s with
  | none => none
  | some (first, rest) =>
    match _hrest : skip rest with
    | [] => some [first]
    | c :: more => if c = ',' then (selectors? (skip more)).map (first :: ·) else none
termination_by s.length
decreasing_by
  have hfirst := length_selector?_le _h
  have hpos := first.size_pos
  have hrest := length_skip_le rest
  have hmore := length_skip_le more
  rw [_hrest, List.length_cons] at hrest
  omega

/-- What a browser reads in a style rule. -/
def read? (rule : String) : Option (List Selector) := selectors? (skip (preprocess rule.toList))

theorem selectors?_of_end {s rest : List Char} {first : Selector}
    (h : selector? s = some (first, rest)) (hrest : skip rest = []) :
    selectors? s = some [first] := by
  rw [selectors?]
  split
  · rename_i hnone
    rw [h] at hnone
    cases hnone
  · rename_i first' rest' hsome
    rw [h, Option.some.injEq, Prod.mk.injEq] at hsome
    obtain ⟨rfl, rfl⟩ := hsome
    split
    · rfl
    · rename_i c more hmore
      rw [hrest] at hmore
      cases hmore

theorem selectors?_of_comma {s rest more : List Char} {first : Selector}
    (h : selector? s = some (first, rest)) (hrest : skip rest = ',' :: more) :
    selectors? s = (selectors? (skip more)).map (first :: ·) := by
  rw [selectors?]
  split
  · rename_i hnone
    rw [h] at hnone
    cases hnone
  · rename_i first' rest' hsome
    rw [h, Option.some.injEq, Prod.mk.injEq] at hsome
    obtain ⟨rfl, rfl⟩ := hsome
    split
    · rename_i hnil
      rw [hrest] at hnil
      cases hnil
    · rename_i c more' hmore
      rw [hrest, List.cons.injEq] at hmore
      obtain ⟨rfl, rfl⟩ := hmore
      rw [if_pos rfl]

/-- The first of several selectors is read first, and a comma follows it. -/
theorem exists_of_selectors? {s : List Char} {first : Selector} {others : List Selector}
    (h : selectors? s = some (first :: others)) :
    ∃ rest, selector? s = some (first, rest) ∧
      (others ≠ [] → ∃ more, skip rest = ',' :: more ∧ selectors? (skip more) = some others) := by
  rw [selectors?] at h
  split at h
  · cases h
  · rename_i first' rest hfirst
    split at h
    · cases h
      exact ⟨rest, hfirst, fun hne => absurd rfl hne⟩
    · rename_i c more hmore
      split at h
      · rename_i hc
        obtain ⟨others', hothers, heq⟩ := Option.map_eq_some_iff.mp h
        obtain ⟨rfl, rfl⟩ := List.cons.inj heq
        exact ⟨rest, hfirst, fun _ => ⟨more, hc ▸ hmore, hothers⟩⟩
      · cases h

end BrowserSuite.Style
