import BrowserSuite.Proofs.WebDriver.Style
import BrowserSuite.WebDriver.Session

/-!
# Searching by name

A session searches by name with a style rule into which the name is written as it is.  The
browser reads the name out of the rule, and what it reads is that name if and only if the name
needs no escapes: within quotes, it must not have quotes, backslashes, ends of lines or nulls
(`Quotable`), and behind the `#` of a rule for frames, it must be an identifier
(`name_searches_read_iff`).

## Strategy

The difficult half is that nothing else is read as the name.  A string that is read as a name of
the same length has that name as its text (`exists_raw_of_string?`).  It could still be longer
than the name if it went on behind the quote that should end it, but then less would be left for
what has to follow, which needs its length too (`quotable_of_string?`).  In a rule for frames
only the blanks behind commas are left to spare, and a string that takes one of them takes the
bracket in front of it.
-/

namespace BrowserSuite.Style

/-! ## Rules as they are read -/

section Preprocessing

variable {s : List Char}

/-- Whether a character is left as it is when a rule is read. -/
def IsClean (c : Char) : Prop := c ≠ '\r' ∧ c ≠ '\x0C' ∧ c ≠ '\x00'

instance (c : Char) : Decidable (IsClean c) := inferInstanceAs (Decidable (_ ∧ _))

/-- Whether a text is left as it is when a rule is read. -/
def AllClean (s : List Char) : Prop := ∀ c ∈ s, IsClean c

instance (s : List Char) : Decidable (AllClean s) :=
  decidable_of_iff (s.all fun c => IsClean c)
    (by simp only [List.all_eq_true, decide_eq_true_eq, AllClean])

theorem preprocess_cons_of_isClean {c : Char} (h : IsClean c) (s : List Char) :
    preprocess (c :: s) = c :: preprocess s := by
  rw [preprocess]
  · simp [h.1, h.2.1, h.2.2]
  · intro rest hc
    exact absurd hc h.1

theorem preprocess_append_of_allClean (h : AllClean s) (t : List Char) :
    preprocess (s ++ t) = s ++ preprocess t := by
  induction s with
  | nil => rfl
  | cons c s ih =>
      obtain ⟨hc, hs⟩ := List.forall_mem_cons.mp h
      rw [List.cons_append, preprocess_cons_of_isClean hc, ih hs, List.cons_append]

theorem preprocess_eq_self (h : AllClean s) : preprocess s = s := by
  simpa [preprocess] using preprocess_append_of_allClean h []

/-- The ends of lines can be looked for in two parts of a rule, unless one is in both. -/
theorem preprocess_append (s : List Char) {t : List Char} (ht : ∀ c ∈ t.head?, c ≠ '\n') :
    preprocess (s ++ t) = preprocess s ++ preprocess t := by
  induction s using preprocess.induct with
  | case1 => rfl
  | case2 rest ih =>
      rw [List.cons_append, List.cons_append, preprocess, preprocess, ih, List.cons_append]
  | case3 c rest hnot ih =>
      have hnot' : ∀ more, c = '\r' → rest ++ t = '\n' :: more → False := by
        intro more hc hmore
        cases rest with
        | nil => exact ht '\n' (by rw [List.nil_append] at hmore; rw [hmore]; rfl) rfl
        | cons d rest =>
            rw [List.cons_append, List.cons.injEq] at hmore
            exact hnot rest hc (by rw [hmore.1])
      rw [List.cons_append, preprocess.eq_3 _ _ hnot', preprocess.eq_3 _ _ hnot, ih,
        List.cons_append]

theorem length_preprocess_le (s : List Char) : (preprocess s).length ≤ s.length := by
  induction s using preprocess.induct with
  | case1 => exact Nat.le_refl _
  | case2 rest ih =>
      rw [preprocess]
      simp only [List.length_cons]
      omega
  | case3 c rest hnot ih =>
      rw [preprocess.eq_3 _ _ hnot]
      exact Nat.succ_le_succ ih

theorem allClean_preprocess (s : List Char) : AllClean (preprocess s) := by
  have hfeed : IsClean '\n' := by decide
  induction s using preprocess.induct with
  | case1 => nofun
  | case2 rest ih =>
      rw [preprocess]
      exact List.forall_mem_cons.mpr ⟨hfeed, ih⟩
  | case3 c rest hnot ih =>
      rw [preprocess.eq_3 _ _ hnot]
      refine List.forall_mem_cons.mpr ⟨?_, ih⟩
      split
      · exact hfeed
      · rename_i hline
        obtain ⟨hreturn, hpage⟩ := not_or.mp hline
        split
        · decide
        · rename_i hnull
          exact ⟨hreturn, hpage, hnull⟩

end Preprocessing

/-- A text that can stand within quotes as it is. -/
def Quotable (s : List Char) : Prop :=
  ∀ c ∈ s, c ∉ ['"', '\\', '\n', '\r', '\x0C', '\x00']

instance (s : List Char) : Decidable (Quotable s) :=
  decidable_of_iff (s.all fun c => c ∉ ['"', '\\', '\n', '\r', '\x0C', '\x00'])
    (by simp only [List.all_eq_true, decide_eq_true_eq, Quotable])

theorem quotable_iff {s : List Char} : Quotable s ↔ (∀ c ∈ s, IsPlain c) ∧ AllClean s := by
  have hchar : ∀ c, c ∉ ['"', '\\', '\n', '\r', '\x0C', '\x00'] ↔ IsPlain c ∧ IsClean c := by
    simp [IsPlain, IsClean, and_assoc]
  exact (forall₂_congr fun c _ => hchar c).trans forall₂_and

/-- A text within quotes is read as itself, without taking of what is behind it, only if it can
stand there as it is. -/
theorem quotable_of_string? {s rest behind : List Char}
    (h : string? (preprocess s ++ '"' :: behind) = some (s, rest))
    (hle : behind.length ≤ rest.length) : Quotable s ∧ rest = behind := by
  obtain ⟨raw, hraw, hshort, hexact⟩ := exists_raw_of_string? h
  have hlength := congrArg List.length hraw
  simp only [List.length_append, List.length_cons] at hlength
  have hpreprocess := length_preprocess_le s
  obtain ⟨rfl, hplain⟩ := hexact (by omega)
  obtain ⟨hsame, hbehind⟩ := List.append_inj hraw (by omega)
  have hclean := allClean_preprocess raw
  rw [hsame] at hclean
  exact ⟨quotable_iff.mpr ⟨hplain, hclean⟩, (List.cons.inj hbehind).2.symm⟩

theorem IsIdentifier.quotable {s : List Char} (h : IsIdentifier s) : Quotable s := by
  intro c hc hspecial
  simp only [List.mem_cons, List.not_mem_nil, or_false] at hspecial
  rcases hspecial with rfl | rfl | rfl | rfl | rfl | rfl <;>
    exact absurd (h.2 _ hc) (by decide)

/-! ## The parts of a rule -/

section Parts

variable {s rest value : List Char}

/-- How the test of a name begins. -/
def nameStart : List Char := ['[', 'n', 'a', 'm', 'e', '=', '"']

theorem endsName_cons {c : Char} (h : isNamePart c = false) (hslash : c ≠ '\\')
    (s : List Char) : EndsName (c :: s) := by
  intro d hd
  cases hd
  exact ⟨h, hslash⟩

theorem endsName_nameStart (s : List Char) : EndsName (nameStart ++ s) :=
  endsName_cons (by decide) (by decide) _

theorem test?_name (s : List Char) :
    test? (nameStart ++ s) = (string? s).bind fun read =>
      (expect? ']' (skip read.2)).map fun rest => (.equals "name" (String.ofList read.1), rest) := by
  have hname : identifier? ("name".toList ++ '=' :: '"' :: s) =
      some ("name".toList, '=' :: '"' :: s) :=
    identifier?_append (by decide) (endsName_cons (by decide) (by decide) _)
  have hstart : nameStart ++ s = '[' :: ("name".toList ++ '=' :: '"' :: s) := rfl
  have hskip : skip ("name".toList ++ '=' :: '"' :: s) = "name".toList ++ '=' :: '"' :: s := rfl
  have hequals : expect? '=' (skip ('=' :: '"' :: s)) = some ('"' :: s) := rfl
  have hquote : expect? '"' (skip ('"' :: s)) = some s := rfl
  rw [hstart, test?, hskip, hname]
  simp only [Option.bind_eq_bind, Option.bind_some, hequals, hquote]
  cases string? s with
  | none => rfl
  | some read => cases h : expect? ']' (skip read.2) <;> simp [h]

theorem exists_of_test?_name {name value : String}
    (h : test? (nameStart ++ s) = some (.equals name value, rest)) :
    ∃ behind, string? s = some (value.toList, behind) ∧ expect? ']' (skip behind) = some rest := by
  rw [test?_name, Option.bind_eq_some_iff] at h
  obtain ⟨⟨chars, behind⟩, hstring, h⟩ := h
  obtain ⟨rest', hclose, heq⟩ := Option.map_eq_some_iff.mp h
  cases heq
  exact ⟨behind, by rw [hstring, String.toList_ofList], hclose⟩

theorem test?_quoted (h : Quotable value) (rest : List Char) :
    test? (nameStart ++ (value ++ '"' :: ']' :: rest)) =
      some (.equals "name" (String.ofList value), rest) := by
  rw [test?_name, string?_append (quotable_iff.mp h).1]
  rfl

theorem selector?_of_tag {tag : String} (htag : IsIdentifier tag.toList) (hs : EndsName s) :
    selector? (tag.toList ++ s) =
      (test? s).map fun read => (⟨some tag, read.1⟩, read.2) := by
  have hname : Style.tag (tag.toList ++ s) = (some tag, s) := by
    rw [Style.tag, identifier?_append htag hs]
    simp
  rw [selector?, hname]
  cases test? s <;> rfl

theorem test?_of_selector? {tag : String} (htag : IsIdentifier tag.toList) (hs : EndsName s)
    {selector : Selector} (h : selector? (tag.toList ++ s) = some (selector, rest)) :
    test? s = some (selector.test, rest) := by
  rw [selector?_of_tag htag hs, Option.map_eq_some_iff] at h
  obtain ⟨read, htest, heq⟩ := h
  cases heq
  exact htest

theorem selector?_of_endsName (hs : EndsName s) :
    selector? s = (test? s).map fun read => (⟨none, read.1⟩, read.2) := by
  have hnone : tag s = (none, s) := by
    rw [tag, identifier?, hs.startsName_eq_false]
    rfl
  rw [selector?, hnone]
  cases test? s <;> rfl

theorem test?_id (s : List Char) :
    test? ('#' :: s) = (identifier? s).map fun read => (.id (String.ofList read.1), read.2) := by
  rw [test?]
  cases identifier? s <;> rfl

theorem identifier?_of_test?_id {value : String} (h : test? ('#' :: s) = some (.id value, rest)) :
    identifier? s = some (value.toList, rest) := by
  rw [test?_id, Option.map_eq_some_iff] at h
  obtain ⟨read, hread, heq⟩ := h
  cases heq
  rw [hread, String.toList_ofList]

theorem selector?_quoted {tag : String} (htag : IsIdentifier tag.toList) {name : String}
    (h : Quotable name.toList) (rest : List Char) :
    selector? (tag.toList ++ (nameStart ++ (name.toList ++ '"' :: ']' :: rest))) =
      some (⟨some tag, .equals "name" name⟩, rest) := by
  rw [selector?_of_tag htag (endsName_nameStart _), test?_quoted h]
  simp

theorem selector?_identifier {tag : String} (htag : IsIdentifier tag.toList) {id : String}
    (h : IsIdentifier id.toList) {rest : List Char} (hrest : EndsName rest) :
    selector? (tag.toList ++ '#' :: (id.toList ++ rest)) = some (⟨some tag, .id id⟩, rest) := by
  have hends : EndsName ('#' :: (id.toList ++ rest)) := endsName_cons (by decide) (by decide) _
  rw [selector?_of_tag htag hends, test?_id, identifier?_append h hrest]
  simp

end Parts

/-! ## The rule for elements of a name -/

/-- The characters of the rule for elements of a name. -/
def nameRule (name : List Char) : List Char := nameStart ++ (name ++ ['"', ']'])

theorem read?_name (name : String) :
    read? ("[name=\"" ++ name ++ "\"]") = selectors? (nameRule (preprocess name.toList)) := by
  have hchars : ("[name=\"" ++ name ++ "\"]").toList =
      nameStart ++ (name.toList ++ ['"', ']']) := by
    simp only [String.toList_append, List.append_assoc]
    rfl
  rw [read?, hchars, preprocess_append_of_allClean (by decide), preprocess_append _ (by simp)]
  rfl

/-- The rule for elements of a name is read as such if and only if the name can stand within
quotes as it is. -/
theorem read?_name_iff (name : String) :
    read? ("[name=\"" ++ name ++ "\"]") = some [⟨none, .equals "name" name⟩] ↔
      Quotable name.toList := by
  rw [read?_name, nameRule]
  constructor
  · intro h
    obtain ⟨rest, hfirst, -⟩ := exists_of_selectors? h
    rw [selector?_of_endsName (endsName_nameStart _), Option.map_eq_some_iff] at hfirst
    obtain ⟨⟨test, rest'⟩, htest, heq⟩ := hfirst
    cases heq
    obtain ⟨behind, hstring, hclose⟩ := exists_of_test?_name htest
    have hlength := length_of_expect?_skip hclose
    exact (quotable_of_string? hstring (by simp only [List.length_singleton]; omega)).1
  · intro h
    have hclean := preprocess_eq_self (quotable_iff.mp h).2
    have hfirst : selector? (nameStart ++ (name.toList ++ ['"', ']'])) =
        some (⟨none, .equals "name" name⟩, []) := by
      rw [selector?_of_endsName (endsName_nameStart _), test?_quoted h]
      simp
    rw [hclean]
    exact selectors?_of_end hfirst rfl

/-! ## The rule for frames of a name -/

/-- What follows the name in the first selector of the rule for frames of a name. -/
def frameRuleRest (name : List Char) : List Char :=
  ']' :: ',' :: ' ' :: ("iframe".toList ++ '#' :: (name ++
    ',' :: ' ' :: ("frame".toList ++ nameRule name)))

/-- The characters of the rule for frames of a name. -/
def frameRule (name : List Char) : List Char :=
  "iframe".toList ++ (nameStart ++ (name ++ '"' :: frameRuleRest name))

theorem read?_frame (name : String) :
    read? ("iframe[name=\"" ++ name ++ "\"], iframe#" ++ name ++ ", frame[name=\"" ++ name ++
      "\"]") = selectors? (frameRule (preprocess name.toList)) := by
  have hchars : ("iframe[name=\"" ++ name ++ "\"], iframe#" ++ name ++ ", frame[name=\"" ++
      name ++ "\"]").toList = "iframe[name=\"".toList ++ (name.toList ++
        ("\"], iframe#".toList ++ (name.toList ++ (", frame[name=\"".toList ++ (name.toList ++
          ['"', ']']))))) := by
    simp only [String.toList_append, List.append_assoc]
    rfl
  rw [read?, hchars, preprocess_append_of_allClean (by decide), preprocess_append _ (by simp),
    preprocess_append_of_allClean (by decide), preprocess_append _ (by simp),
    preprocess_append_of_allClean (by decide), preprocess_append _ (by simp)]
  rfl

/-- The selectors that say that a frame has a name. -/
def frameSelectors (name : String) : List Selector :=
  [⟨some "iframe", .equals "name" name⟩, ⟨some "iframe", .id name⟩,
    ⟨some "frame", .equals "name" name⟩]

theorem selectors?_frameRule {name : String} (h : IsIdentifier name.toList) :
    selectors? (frameRule name.toList) = some (frameSelectors name) := by
  have hiframe : IsIdentifier "iframe".toList := by decide
  have hframe : IsIdentifier "frame".toList := by decide
  have hcomma : ∀ s, EndsName (',' :: s) := fun s => endsName_cons (by decide) (by decide) s
  have hlast : selectors? ("frame".toList ++ nameRule name.toList) =
      some [⟨some "frame", .equals "name" name⟩] :=
    selectors?_of_end (selector?_quoted hframe h.quotable []) rfl
  have hothers : selectors? ("iframe".toList ++ '#' :: (name.toList ++
      ',' :: ' ' :: ("frame".toList ++ nameRule name.toList))) =
        some [⟨some "iframe", .id name⟩, ⟨some "frame", .equals "name" name⟩] := by
    rw [selectors?_of_comma (selector?_identifier hiframe h (hcomma _)) rfl]
    exact congrArg (Option.map _) hlast
  -- The equation of the definition would take a proof that reads the letters of the tag.
  delta frameRule
  rw [frameRuleRest, selectors?_of_comma (selector?_quoted hiframe h.quotable _) rfl]
  exact congrArg (Option.map _) hothers

/-- The first selector of the rule for frames is closed behind the name, or more than the blank
and the comma in front of the next one is read as part of it. -/
theorem eq_of_closed {front behind rest name : List Char}
    (h : front ++ behind = frameRuleRest name) (hle : front.length ≤ 2)
    (hclose : expect? ']' (skip behind) = some rest) : behind = frameRuleRest name := by
  match front, hle with
  | [], _ => exact h
  | [a], _ =>
      obtain ⟨-, rfl⟩ := List.cons.inj h
      cases hclose
  | [a, b], _ =>
      obtain ⟨-, h⟩ := List.cons.inj h
      obtain ⟨-, rfl⟩ := List.cons.inj h
      cases hclose

theorem length_frameRuleRest (name : List Char) :
    (frameRuleRest name).length = 2 * name.length + 26 := by
  simp [frameRuleRest, nameRule, nameStart]
  omega

/-- The other selectors of the rule for frames leave room for two characters, at most. -/
theorem length_le_of_frameSelectors {name : String} {s : List Char}
    (h : selectors? s =
      some [⟨some "iframe", .id name⟩, ⟨some "frame", .equals "name" name⟩]) :
    2 * name.length + 22 ≤ s.length := by
  obtain ⟨rest, hid, hnext⟩ := exists_of_selectors? h
  obtain ⟨more, hcomma, hlast⟩ := hnext (List.cons_ne_nil _ _)
  obtain ⟨behind, hframe, -⟩ := exists_of_selectors? hlast
  have hrest := length_skip_le rest
  have hmore := length_skip_le more
  rw [hcomma, List.length_cons] at hrest
  have hidSize : Selector.size ⟨some "iframe", .id name⟩ = name.length + 7 := by
    simp only [Selector.size, Test.size, Option.getD_some]
    have : "iframe".length = 6 := rfl
    omega
  have hframeSize : Selector.size ⟨some "frame", .equals "name" name⟩ = name.length + 14 := by
    simp only [Selector.size, Test.size, Option.getD_some]
    have : "frame".length = 5 := rfl
    have : "name".length = 4 := rfl
    omega
  have hid := length_selector?_le hid
  have hframe := length_selector?_le hframe
  omega

/-- The name within the quotes of the first selector is read to its end and no further, if the
other selectors are read behind it. -/
theorem quotable_of_frameRule {name : String} {behind rest more : List Char}
    (hstring : string? (preprocess name.toList ++ '"' ::
      frameRuleRest (preprocess name.toList)) = some (name.toList, behind))
    (hclose : expect? ']' (skip behind) = some rest) (hcomma : skip rest = ',' :: more)
    (hothers : selectors? (skip more) =
      some [⟨some "iframe", .id name⟩, ⟨some "frame", .equals "name" name⟩]) :
    Quotable name.toList ∧ behind = frameRuleRest (preprocess name.toList) := by
  have hroom : (frameRuleRest (preprocess name.toList)).length ≤ behind.length + 2 := by
    have hpreprocess := length_preprocess_le name.toList
    have hbehind := length_of_expect?_skip hclose
    have hrest := length_skip_le rest
    have hmore := length_skip_le more
    have hneeded := length_le_of_frameSelectors hothers
    rw [hcomma, List.length_cons] at hrest
    rw [String.length_toList] at hpreprocess
    rw [length_frameRuleRest]
    omega
  have hexact : (frameRuleRest (preprocess name.toList)).length ≤ behind.length := by
    by_contra hlonger
    obtain ⟨raw, hraw, -, -⟩ := exists_raw_of_string? hstring
    have hbehind : behind <:+ preprocess name.toList ++ '"' ::
        frameRuleRest (preprocess name.toList) := by
      rw [hraw]
      exact (List.suffix_cons _ _).trans (List.suffix_append _ _)
    obtain ⟨front, hfront⟩ := List.suffix_of_suffix_length_le hbehind
      ((List.suffix_cons _ _).trans (List.suffix_append _ _)) (by omega)
    have hlength := congrArg List.length hfront
    rw [List.length_append] at hlength
    have hsame := eq_of_closed hfront (by omega) hclose
    rw [hsame] at hlonger
    exact hlonger (Nat.le_refl _)
  exact quotable_of_string? hstring hexact

/-- Only an identifier is read as the name of a frame. -/
theorem isIdentifier_of_frameRule {name : String}
    (h : selectors? (frameRule (preprocess name.toList)) = some (frameSelectors name)) :
    IsIdentifier name.toList := by
  have hiframe : IsIdentifier "iframe".toList := by decide
  obtain ⟨rest, hfirst, hnext⟩ := exists_of_selectors? h
  obtain ⟨more, hcomma, hothers⟩ := hnext (List.cons_ne_nil _ _)
  obtain ⟨behind, hstring, hclose⟩ :=
    exists_of_test?_name (test?_of_selector? hiframe (endsName_nameStart _) hfirst)
  obtain ⟨hquotable, rfl⟩ := quotable_of_frameRule hstring hclose hcomma hothers
  rw [preprocess_eq_self (quotable_iff.mp hquotable).2] at hclose
  -- So the second selector is read from the text of the name.
  obtain ⟨-, rfl⟩ := List.cons.inj (eq_cons_of_expect? hclose)
  obtain ⟨-, rfl⟩ := List.cons.inj hcomma
  obtain ⟨rest, hid, -⟩ := exists_of_selectors? hothers
  have hvalue := identifier?_of_test?_id
    (test?_of_selector? hiframe (endsName_cons (by decide) (by decide) _) hid)
  exact isIdentifier_of_identifier?
    (fun hmem => ((quotable_iff.mp hquotable).1 _ hmem).2.1 rfl)
    (endsName_cons (by decide) (by decide) _) hvalue

/-- The rule for frames of a name is read as such if and only if the name is an identifier. -/
theorem read?_frame_iff (name : String) :
    read? ("iframe[name=\"" ++ name ++ "\"], iframe#" ++ name ++ ", frame[name=\"" ++ name ++
      "\"]") = some (frameSelectors name) ↔ IsIdentifier name.toList := by
  rw [read?_frame]
  constructor
  · exact isIdentifier_of_frameRule
  · intro h
    rw [preprocess_eq_self (quotable_iff.mp h.quotable).2]
    exact selectors?_frameRule h

end BrowserSuite.Style

namespace BrowserSuite.WebDriver

open Style

/-- The first request of a conversation, if it has any. -/
def firstRequest? {α : Type} (c : Conversation α) : Option Request :=
  match c.run with
  | .ask request _ => some request
  | .done _ => none

/-- The three calls of an open session that take a name begin with a search by a style rule, the
same one for the first element and for all.  A browser reads it as a search for that very name if
and only if the name can stand within quotes as it is, or for a frame, if and only if the name is
an identifier. -/
theorem name_searches_read_iff (id name : String) :
    let s : Session := ⟨id, true⟩
    ∃ rule frameRule : String,
      firstRequest? (s.perform (.find ⟨.name, name⟩)) =
          some ⟨.post, s.path "element", Session.styleSearch rule⟩ ∧
        firstRequest? (s.perform (.findAll ⟨.name, name⟩)) =
          some ⟨.post, s.path "elements", Session.styleSearch rule⟩ ∧
        firstRequest? (s.perform (.switchToFrame (.name name))) =
          some ⟨.post, s.path "element", Session.styleSearch frameRule⟩ ∧
        (read? rule = some [⟨none, .equals "name" name⟩] ↔ Quotable name.toList) ∧
        (read? frameRule = some (frameSelectors name) ↔ IsIdentifier name.toList) :=
  ⟨_, _, rfl, rfl, rfl, read?_name_iff name, read?_frame_iff name⟩

/-- A quote in a name ends the name early, and a digit in front of one is no start of an
identifier. -/
theorem quoted_and_numbered_names_misread :
    let s : Session := ⟨"S", true⟩
    firstRequest? (s.perform (.find ⟨.name, "a\"b"⟩)) =
        some ⟨.post, s.path "element", Session.styleSearch "[name=\"a\"b\"]"⟩ ∧
      read? "[name=\"a\"b\"]" ≠ some [⟨none, .equals "name" "a\"b"⟩] ∧
      firstRequest? (s.perform (.switchToFrame (.name "1st"))) = some ⟨.post, s.path "element",
        Session.styleSearch "iframe[name=\"1st\"], iframe#1st, frame[name=\"1st\"]"⟩ ∧
      read? "iframe[name=\"1st\"], iframe#1st, frame[name=\"1st\"]" ≠
        some (frameSelectors "1st") := by
  refine ⟨rfl, fun h => ?_, rfl, fun h => ?_⟩
  · exact absurd ((read?_name_iff "a\"b").mp h) (by decide)
  · exact absurd ((read?_frame_iff "1st").mp h) (by decide)

end BrowserSuite.WebDriver
