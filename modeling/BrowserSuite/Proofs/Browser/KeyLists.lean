import BrowserSuite.Browser.Keys
import BrowserSuite.Proofs.Text.Occurrences
import Mathlib.Data.List.Forall2

/-!
# Key lists

A key list is read item by item, and no item knows of another one: the codes of two lists with a
comma between them are the codes of the first and then those of the second, and the first item
that names no key decides how a list is refused (`ofList_reads_items`).

What an item is does not depend on how a list is cut.  The items are texts without commas that are
the list again when they are written with commas between them, and a list has no other such items
(`Text.fieldsBy_joinFields`).  So an empty list has one item, which is empty and names no key.
-/

namespace BrowserSuite.Keys

variable {item e : String} {c : Char} {items : List String} {cs : List Char}

/-! ## One item -/

/-- The item is the name of the key with this code, but for blanks around it and its case. -/
def Names (item : String) (c : Char) : Prop := (Text.lower (Text.trim item), c) ∈ table

instance (item : String) (c : Char) : Decidable (Names item c) :=
  inferInstanceAs (Decidable (_ ∈ table))

theorem lookup_eq_some_iff {rows : List (String × Char)} (h : (rows.map Prod.fst).Nodup)
    {name : String} : rows.lookup name = some c ↔ (name, c) ∈ rows := by
  induction rows with
  | nil => simp
  | cons row rows ih =>
      obtain ⟨other, d⟩ := row
      obtain ⟨hother, hrows⟩ := List.nodup_cons.mp h
      rw [List.lookup_cons, List.mem_cons, Prod.mk.injEq]
      by_cases heq : name = other
      · subst heq
        have hnot : (name, c) ∉ rows := fun hmem => hother (List.mem_map.mpr ⟨_, hmem, rfl⟩)
        simp [hnot, eq_comm]
      · rw [beq_eq_false_iff_ne.mpr heq]
        simpa [heq] using ih hrows

/-- No two keys of the table have one name. -/
theorem lookup_table_iff {name : String} : table.lookup name = some c ↔ (name, c) ∈ table :=
  lookup_eq_some_iff (by decide)

theorem code_eq_ok_iff : code item = .ok c ↔ Names item c := by
  rw [Names, ← lookup_table_iff, code]
  cases table.lookup (Text.lower (Text.trim item)) <;> simp

theorem code_eq_error_iff :
    code item = .error e ↔ (∀ c, ¬Names item c) ∧ e = Text.lower (Text.trim item) := by
  simp only [Names, ← lookup_table_iff, code]
  cases table.lookup (Text.lower (Text.trim item)) <;> simp [eq_comm]

/-! ## Several items -/

theorem codes_cons_of_ok (h : code item = .ok c) (items : List String) :
    codes (item :: items) = (codes items).map (c :: ·) := by
  rw [codes, h]
  rfl

theorem codes_cons_of_error (h : code item = .error e) (items : List String) :
    codes (item :: items) = .error e := by
  rw [codes, h]
  rfl

/-- What two lists give together: the codes of both, or the error of the first one that has
an error. -/
def both {α : Type} [Append α] : Except String α → Except String α → Except String α
  | .error e, _ => .error e
  | .ok _, .error e => .error e
  | .ok first, .ok second => .ok (first ++ second)

theorem codes_append (first second : List String) :
    codes (first ++ second) = both (codes first) (codes second) := by
  induction first with
  | nil =>
      rw [List.nil_append]
      cases codes second <;> rfl
  | cons item first ih =>
      rw [List.cons_append]
      cases hitem : code item with
      | error e => rw [codes_cons_of_error hitem, codes_cons_of_error hitem, both]
      | ok c =>
          rw [codes_cons_of_ok hitem, codes_cons_of_ok hitem, ih]
          cases codes first <;> cases codes second <;> rfl

theorem codes_eq_ok_iff : codes items = .ok cs ↔ List.Forall₂ Names items cs := by
  induction items generalizing cs with
  | nil =>
      rw [List.forall₂_nil_left_iff]
      exact ⟨fun h => (Except.ok.inj h).symm, fun h => h ▸ rfl⟩
  | cons item items ih =>
      rw [List.forall₂_cons_left_iff]
      cases hitem : code item with
      | error e =>
          rw [codes_cons_of_error hitem]
          refine ⟨nofun, ?_⟩
          rintro ⟨c, _, hnames, -⟩
          exact absurd hnames ((code_eq_error_iff.mp hitem).1 c)
      | ok c =>
          have hnames (d : Char) : Names item d ↔ d = c := by
            rw [← code_eq_ok_iff, hitem, Except.ok.injEq, eq_comm]
          rw [codes_cons_of_ok hitem]
          cases hitems : codes items with
          | error e =>
              refine ⟨nofun, ?_⟩
              rintro ⟨_, rest, -, hrest, -⟩
              cases hitems.symm.trans (ih.mpr hrest)
          | ok rest =>
              simp only [hnames, ← ih, hitems]
              simp [Except.map, eq_comm]

theorem exists_codes (h : ∀ item ∈ items, ∃ c, Names item c) : ∃ cs, codes items = .ok cs := by
  induction items with
  | nil => exact ⟨[], rfl⟩
  | cons item items ih =>
      obtain ⟨⟨c, hc⟩, hitems⟩ := List.forall_mem_cons.mp h
      obtain ⟨cs, hcs⟩ := ih hitems
      exact ⟨c :: cs, by rw [codes_cons_of_ok (code_eq_ok_iff.mpr hc), hcs]; rfl⟩

/-- The first item that names no key is what a list is refused for. -/
theorem codes_eq_error_iff :
    codes items = .error e ↔ ∃ before item after, items = before ++ item :: after ∧
      (∀ known ∈ before, ∃ c, Names known c) ∧ code item = .error e := by
  constructor
  · intro h
    induction items with
    | nil => cases h
    | cons item items ih =>
        cases hitem : code item with
        | error e' =>
            obtain rfl : e' = e := by simpa [codes_cons_of_error hitem] using h
            exact ⟨[], item, items, rfl, nofun, hitem⟩
        | ok c =>
            rw [codes_cons_of_ok hitem] at h
            cases hitems : codes items with
            | ok cs => cases hitems ▸ h
            | error e' =>
                obtain rfl : e' = e := by simpa [hitems, Except.map] using h
                obtain ⟨before, wrong, after, rfl, hbefore, hwrong⟩ := ih hitems
                exact ⟨item :: before, wrong, after, rfl,
                  List.forall_mem_cons.mpr ⟨⟨c, code_eq_ok_iff.mp hitem⟩, hbefore⟩, hwrong⟩
  · rintro ⟨before, item, after, rfl, hbefore, hitem⟩
    obtain ⟨cs, hcs⟩ := exists_codes hbefore
    rw [codes_append, hcs, codes_cons_of_error hitem, both]

/-! ## Lists -/

/-- The items of a key list: texts without commas that are the list again when they are written
with commas between them. -/
structure Lists (text : String) (items : List String) : Prop where
  nonempty : items ≠ []
  bare : ∀ item ∈ items, ',' ∉ item.toList
  joined : Text.join "," items = text

theorem comma_ne : "," ≠ "" := by decide

/-- There are no other items than those that a list is cut into. -/
theorem lists_iff {text : String} : Lists text items ↔ items = Text.split "," text := by
  constructor
  · rintro ⟨hne, hbare, rfl⟩
    exact (Text.split_join hne hbare).symm
  · rintro rfl
    refine ⟨?_, fun item hitem => ?_, Text.join_split comma_ne text⟩
    · simpa [Text.split_eq comma_ne] using Text.fieldsBy_ne_nil _ _
    · rw [Text.split_eq comma_ne] at hitem
      obtain ⟨field, hfield, rfl⟩ := List.mem_map.mp hitem
      rw [String.toList_ofList, ← List.singleton_infix_iff]
      exact Text.not_infix_of_mem_fieldsBy (List.cons_ne_nil _ _) hfield

theorem split_append (a b : String) :
    Text.split "," (a ++ "," ++ b) = Text.split "," a ++ Text.split "," b := by
  have hcomma : ",".toList = [','] := rfl
  have htext : (a ++ "," ++ b).toList = a.toList ++ ',' :: b.toList := by simp
  simp only [Text.split_eq comma_ne]
  rw [htext, hcomma, Text.fieldsBy_append, List.map_append]

theorem lists_singleton {text : String} (h : ',' ∉ text.toList) : Lists text [text] where
  nonempty := List.cons_ne_nil _ _
  bare := by simpa using h
  joined := String.intercalate_singleton

theorem ofList_eq_ok_iff {text codes : String} :
    ofList text = .ok codes ↔ List.Forall₂ Names (Text.split "," text) codes.toList := by
  rw [ofList, ← codes_eq_ok_iff]
  cases Keys.codes (Text.split "," text) with
  | error e => exact ⟨nofun, nofun⟩
  | ok cs => simp [Except.map, ← String.toList_inj]

theorem ofList_eq_error_iff {text : String} :
    ofList text = .error e ↔ ∃ before item after, Text.split "," text = before ++ item :: after ∧
      (∀ known ∈ before, ∃ c, Names known c) ∧ code item = .error e := by
  rw [ofList, ← codes_eq_error_iff]
  cases codes (Text.split "," text) <;> simp [Except.map]

/-- The codes of two lists with a comma between them are those of the one and then those of the
other, and what is wrong with the first list is found first.

A text without a comma has codes exactly if it is the name of a key, but for blanks around it and
its case, and then it is the one code of that key.

Every text is made of items, in one way.  It has one code for each of them, in their order; or it
is refused for the first item that names no key, whatever follows it, and the error is that item
without the blanks around it and in lower case. -/
theorem ofList_reads_items :
    (∀ a b, ofList (a ++ "," ++ b) = both (ofList a) (ofList b)) ∧
    (∀ text codes, ',' ∉ text.toList →
      (ofList text = .ok codes ↔ ∃ c, Names text c ∧ codes = String.singleton c)) ∧
    (∀ text, ∃! items, Lists text items) ∧
    ∀ text items, Lists text items →
      (∀ codes, ofList text = .ok codes ↔ List.Forall₂ Names items codes.toList) ∧
      ∀ e, ofList text = .error e ↔ ∃ before item after, items = before ++ item :: after ∧
        (∀ known ∈ before, ∃ c, Names known c) ∧ (∀ c, ¬Names item c) ∧
          e = Text.lower (Text.trim item) := by
  refine ⟨fun a b => ?_, fun text codes hbare => ?_, fun text => ?_, fun text items hitems => ?_⟩
  · rw [ofList, split_append, codes_append, ofList, ofList]
    cases codes (Text.split "," a) <;> cases codes (Text.split "," b) <;>
      simp [both, Except.map, String.ofList_append]
  · rw [ofList_eq_ok_iff, ← lists_iff.mp (lists_singleton hbare), List.forall₂_cons_left_iff]
    simp only [List.forall₂_nil_left_iff]
    constructor
    · rintro ⟨c, _, hnames, rfl, hcodes⟩
      exact ⟨c, hnames, by rw [← String.toList_inj, hcodes, String.toList_singleton]⟩
    · rintro ⟨c, hnames, rfl⟩
      exact ⟨c, [], hnames, rfl, String.toList_singleton c⟩
  · exact ⟨_, lists_iff.mpr rfl, fun _ => lists_iff.mp⟩
  · rw [lists_iff.mp hitems]
    refine ⟨fun codes => ofList_eq_ok_iff, fun e => ?_⟩
    simp only [ofList_eq_error_iff, code_eq_error_iff]

/-- Blanks of other scripts and a Kelvin sign; an empty item, and behind it an unknown one. -/
theorem ofList_reads_items_backspace :
    ofList "\u00a0bac\u212aspace\u3000" = .ok "\ue003" ∧
      Lists "DOWN, tab,,Sideways" ["DOWN", " tab", "", "Sideways"] ∧
      ofList "DOWN, tab,,Sideways" = .error "" := by
  obtain ⟨-, hsingle, -, hitems⟩ := ofList_reads_items
  have hlists : Lists "DOWN, tab,,Sideways" ["DOWN", " tab", "", "Sideways"] :=
    ⟨by decide, by decide, by decide +kernel⟩
  refine ⟨?_, hlists, ?_⟩
  · exact (hsingle _ _ (by decide +kernel)).mpr ⟨'\ue003', by decide +kernel, by decide +kernel⟩
  · have hunknown : code "" = .error "" := by decide +kernel
    refine ((hitems _ _ hlists).2 "").mpr ⟨["DOWN", " tab"], "", ["Sideways"], rfl, ?_,
      code_eq_error_iff.mp hunknown⟩
    rintro _ (_ | ⟨_, _ | ⟨_, ⟨⟩⟩⟩)
    · exact ⟨'\ue015', by decide +kernel⟩
    · exact ⟨'\ue004', by decide +kernel⟩

end BrowserSuite.Keys
