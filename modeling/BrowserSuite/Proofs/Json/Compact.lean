import BrowserSuite.Proofs.Json.Strings
import BrowserSuite.Text.Split
import Std.Data.String.ToInt

/-!
# Compact forms tell values apart

No text is the compact form of two values without doubles (`Value.compact_inj`).  The induction is
on values and needs more: a form also shows where it ends, so that whatever follows two forms can be
cut off (`Value.isTold`).

## Strategy

* Words, and what stands between quotation marks or brackets, end by themselves.  A numeral does
  not, as `1` goes on in `12`; but in a compact form it is followed by a comma, by a bracket or by
  nothing, and so by no character of a numeral (`EndsNumeral`).
* The items of an array and the members of an object are both parts with commas between them.  One
  lemma serves for both; it asks that no part begins with the closing bracket, or else an empty
  list could not be told from one part (`joinFields_append_inj`).
* The first character of a form shows of what kind the value is (`Value.kind_eq_of_append`), so that
  only values of one kind are to be compared.
-/

namespace BrowserSuite.Json

variable {rest rest' : List Char}

/-! ## Numerals -/

/-- The characters of whole numbers. -/
def isNumeral (c : Char) : Bool := c.isDigit || c == '-'

/-- No numeral goes on in this text. -/
def EndsNumeral (rest : List Char) : Prop := ∀ c ∈ rest.head?, isNumeral c = false

theorem isNumeral_of_mem_toString {n : Int} {c : Char} (h : c ∈ (toString n).toList) :
    isNumeral c := by
  have hdigit {m : Nat} (hc : c ∈ m.repr.toList) : isNumeral c := by
    rw [Nat.toList_repr] at hc
    rw [isNumeral, Nat.isDigit_of_mem_toDigits (by decide) (by decide) hc, Bool.true_or]
  rw [Int.toString_eq_repr] at h
  cases n with
  | ofNat m => exact hdigit h
  | negSucc m =>
      rcases List.mem_append.mp (String.toList_append ▸ h) with hsign | hc
      · obtain rfl := List.mem_singleton.mp hsign
        decide
      · exact hdigit hc

theorem toString_ne_nil (n : Int) : (toString n).toList ≠ [] := by
  rw [Int.toString_eq_repr]
  cases n with
  | ofNat m => exact fun h => Nat.repr_ne_empty (String.toList_eq_nil_iff.mp h)
  | negSucc m =>
      change ("-" ++ (m + 1).repr).toList ≠ []
      rw [String.toList_append]
      exact List.cons_ne_nil _ _

/-- What consists of some characters is told apart from what follows without one of them. -/
theorem append_inj_of_forall {p : Char → Bool} {s t : List Char} (hs : ∀ c ∈ s, p c)
    (ht : ∀ c ∈ t, p c) (hrest : ∀ c ∈ rest.head?, p c = false)
    (hrest' : ∀ c ∈ rest'.head?, p c = false) (h : s ++ rest = t ++ rest') :
    s = t ∧ rest = rest' := by
  have hcut {s rest : List Char} (hs : ∀ c ∈ s, p c) (hrest : ∀ c ∈ rest.head?, p c = false) :
      (s ++ rest).takeWhile p = s := by
    have hnil : rest.takeWhile p = [] := by
      cases rest with
      | nil => rfl
      | cons c rest => simp [hrest c rfl]
    rw [List.takeWhile_append_of_pos hs, hnil, List.append_nil]
  obtain rfl : s = t := by rw [← hcut hs hrest, h, hcut ht hrest']
  exact ⟨rfl, List.append_cancel_left h⟩

theorem toString_append_inj {n m : Int} (hrest : EndsNumeral rest) (hrest' : EndsNumeral rest')
    (h : (toString n).toList ++ rest = (toString m).toList ++ rest') : n = m ∧ rest = rest' := by
  obtain ⟨htext, hrests⟩ := append_inj_of_forall (fun _ => isNumeral_of_mem_toString)
    (fun _ => isNumeral_of_mem_toString) hrest hrest' h
  exact ⟨Int.repr_injective (String.toList_inj.mp htext), hrests⟩

/-! ## Parts with commas between them -/

section Parts

variable {α : Type} {write : α → List Char} {Sound : α → Prop} {close : Char} {as bs : List α}

/-- What is written for a thing is told apart from what is written for any sound one, whatever
follows that does not go on as a numeral. -/
def ToldApart (write : α → List Char) (Sound : α → Prop) (a : α) : Prop :=
  ∀ b, Sound b → ∀ rest rest', EndsNumeral rest → EndsNumeral rest' →
    write a ++ rest = write b ++ rest' → a = b ∧ rest = rest'

/-- What follows a part: a comma in front of each further one, and the closing bracket. -/
def remainder (close : Char) : List (List Char) → List Char
  | [] => [close]
  | part :: parts => ',' :: (part ++ remainder close parts)

theorem joinFields_append_close (part : List Char) (parts : List (List Char)) :
    Text.joinFields [','] (part :: parts) ++ [close] = part ++ remainder close parts := by
  induction parts generalizing part with
  | nil => rfl
  | cons next parts ih => simp [Text.joinFields, remainder, ← ih]

theorem endsNumeral_remainder (h : isNumeral close = false) (parts : List (List Char))
    (rest : List Char) : EndsNumeral (remainder close parts ++ rest) := by
  cases parts with
  | nil => simpa [remainder, EndsNumeral] using h
  | cons part parts => simp [remainder, EndsNumeral, isNumeral]

theorem remainder_append_inj (hcomma : close ≠ ',') (hclose : isNumeral close = false)
    (has : ∀ a ∈ as, ToldApart write Sound a) (hbs : ∀ b ∈ bs, Sound b)
    (h : remainder close (as.map write) ++ rest = remainder close (bs.map write) ++ rest') :
    as = bs ∧ rest = rest' := by
  induction as generalizing bs with
  | nil =>
      cases bs with
      | nil => exact ⟨rfl, (List.cons.inj h).2⟩
      | cons b bs => exact absurd (List.cons.inj h).1 hcomma
  | cons a as ih =>
      cases bs with
      | nil => exact absurd (List.cons.inj h).1.symm hcomma
      | cons b bs =>
          obtain ⟨ha, hlater⟩ := List.forall_mem_cons.mp has
          obtain ⟨hb, hlaterb⟩ := List.forall_mem_cons.mp hbs
          simp only [List.map_cons, remainder, List.cons_append, List.append_assoc,
            List.cons.injEq, true_and] at h
          obtain ⟨hab, hrests⟩ := ha b hb _ _ (endsNumeral_remainder hclose _ _)
            (endsNumeral_remainder hclose _ _) h
          obtain ⟨hasbs, hrest⟩ := ih hlater hlaterb hrests
          exact ⟨List.cons_eq_cons.mpr ⟨hab, hasbs⟩, hrest⟩

/-- Things with commas between them are told apart if none of them begins with the bracket that
closes them. -/
theorem joinFields_append_inj (hcomma : close ≠ ',') (hclose : isNumeral close = false)
    (hopen : ∀ a, Sound a → ∀ rest rest', write a ++ rest ≠ close :: rest')
    (has : ∀ a ∈ as, Sound a ∧ ToldApart write Sound a) (hbs : ∀ b ∈ bs, Sound b)
    (h : Text.joinFields [','] (as.map write) ++ [close] ++ rest =
      Text.joinFields [','] (bs.map write) ++ [close] ++ rest') :
    as = bs ∧ rest = rest' := by
  match as, bs with
  | [], [] => exact ⟨rfl, (List.cons.inj h).2⟩
  | [], b :: bs =>
      rw [List.map_cons, joinFields_append_close, List.append_assoc (write b)] at h
      exact absurd h.symm (hopen b (hbs b List.mem_cons_self) _ _)
  | a :: as, [] =>
      rw [List.map_cons, joinFields_append_close, List.append_assoc] at h
      exact absurd h (hopen a (has a List.mem_cons_self).1 _ _)
  | a :: as, b :: bs =>
      -- In front of a comma, the first parts are like the others.
      simp only [List.map_cons, joinFields_append_close] at h
      refine remainder_append_inj hcomma hclose (fun a ha => (has a ha).2) hbs ?_
      simp only [List.map_cons, remainder, List.cons_append, h]

end Parts

namespace Value

/-! ## Values -/

theorem sizeOf_lt_array {v : Value} {items : List Value} (h : v ∈ items) :
    sizeOf v < sizeOf (Value.array items) := by
  have hlt := List.sizeOf_lt_of_mem h
  rw [array.sizeOf_spec]
  omega

theorem sizeOf_lt_object {m : String × Value} {members : Members} (h : m ∈ members) :
    sizeOf m.2 < sizeOf (Value.object members) := by
  obtain ⟨name, v⟩ := m
  have hlt := List.sizeOf_lt_of_mem h
  rw [Prod.mk.sizeOf_spec] at hlt
  rw [object.sizeOf_spec]
  change sizeOf v < _
  omega

/-- Induction on the values that a value is made of. -/
theorem induct {motive : Value → Prop} (null : motive .null) (bool : ∀ b, motive (.bool b))
    (int : ∀ n, motive (.int n)) (float : ∀ x, motive (.float x))
    (string : ∀ s, motive (.string s))
    (array : ∀ items, (∀ v ∈ items, motive v) → motive (.array items))
    (object : ∀ members, (∀ m ∈ members, motive m.2) → motive (.object members)) (v : Value) :
    motive v :=
  match v with
  | .null => null
  | .bool b => bool b
  | .int n => int n
  | .float x => float x
  | .string s => string s
  | .array items => array items fun v _ => induct null bool int float string array object v
  | .object members =>
    object members fun m _ => induct null bool int float string array object m.2
termination_by v
decreasing_by
  · exact sizeOf_lt_array ‹_›
  · exact sizeOf_lt_object ‹_›

mutual

/-- Whether no double is in a value. -/
def isFloatless : Value → Bool
  | .float _ => false
  | .array items => areFloatless items
  | .object members => haveFloatless members
  | _ => true

/-- Whether no double is in any of these values. -/
def areFloatless : List Value → Bool
  | [] => true
  | v :: rest => isFloatless v && areFloatless rest

/-- Whether no double is in the values of these members. -/
def haveFloatless : List (String × Value) → Bool
  | [] => true
  | (_, v) :: rest => isFloatless v && haveFloatless rest

end

@[simp] theorem isFloatless_array (items : List Value) :
    (array items).isFloatless ↔ ∀ v ∈ items, v.isFloatless := by
  rw [isFloatless]
  induction items with
  | nil => simp [areFloatless]
  | cons v items ih => simp [areFloatless, ih]

@[simp] theorem isFloatless_object (members : Members) :
    (object members).isFloatless ↔ ∀ m ∈ members, m.2.isFloatless := by
  rw [isFloatless]
  induction members with
  | nil => simp [haveFloatless]
  | cons m members ih => simp [haveFloatless, ih]

/-- A member as it is written. -/
def memberChars (m : String × Value) : List Char := quote m.1.toList ++ ':' :: m.2.compactChars

theorem compactItems_eq (items : List Value) :
    compactItems items = Text.joinFields [','] (items.map compactChars) := by
  induction items with
  | nil => rfl
  | cons v items ih => cases items <;> simp_all [compactItems, Text.joinFields]

theorem compactMembers_eq (members : Members) :
    compactMembers members = Text.joinFields [','] (members.map memberChars) := by
  induction members with
  | nil => rfl
  | cons m members ih =>
      cases members <;> simp_all [compactMembers, Text.joinFields, memberChars]

/-! ## Telling values apart -/

/-- A character that stands for the kind of a value. -/
def kind : Value → Char
  | .null => 'n'
  | .bool _ => 't'
  | .int _ | .float _ => '0'
  | .string _ => '"'
  | .array _ => '['
  | .object _ => '\x7b'

/-- The kind of value whose text begins with a character. -/
def kindOf (c : Char) : Char := if isNumeral c then '0' else if c = 'f' then 't' else c

theorem exists_compactChars_eq_cons {v : Value} (hv : v.isFloatless) :
    ∃ c s, v.compactChars = c :: s ∧ kindOf c = v.kind := by
  cases v with
  | int n =>
      obtain ⟨c, s, hcs⟩ := List.exists_cons_of_ne_nil (toString_ne_nil n)
      have hc : isNumeral c := isNumeral_of_mem_toString (hcs ▸ List.mem_cons_self)
      exact ⟨c, s, hcs, if_pos hc⟩
  | float x => cases hv
  | bool b => cases b <;> exact ⟨_, _, rfl, rfl⟩
  | _ => exact ⟨_, _, rfl, rfl⟩

/-- Texts that are equal are of values of one kind. -/
theorem kind_eq_of_append {v w : Value} (hv : v.isFloatless) (hw : w.isFloatless)
    (h : v.compactChars ++ rest = w.compactChars ++ rest') : v.kind = w.kind := by
  obtain ⟨c, s, hvc, hc⟩ := exists_compactChars_eq_cons hv
  obtain ⟨d, t, hwd, hd⟩ := exists_compactChars_eq_cons hw
  rw [hvc, hwd] at h
  rw [← hc, ← hd, (List.cons.inj h).1]

/-- No value is written like a closing bracket. -/
theorem append_ne_bracket {v : Value} (hv : v.isFloatless) :
    v.compactChars ++ rest ≠ ']' :: rest' := by
  obtain ⟨c, s, hcs, hc⟩ := exists_compactChars_eq_cons hv
  intro h
  rw [hcs] at h
  rw [(List.cons.inj h).1] at hc
  cases v <;> simp [kind, kindOf, isNumeral] at hc

/-- The text of a value is told apart from those of all other values. -/
abbrev IsTold (v : Value) : Prop := ToldApart compactChars (fun w => w.isFloatless = true) v

/-- It is enough to tell a value apart from others of its kind. -/
theorem IsTold.of_kind {v : Value} (hv : v.isFloatless)
    (h : ∀ w, w.isFloatless → v.kind = w.kind → ∀ rest rest', EndsNumeral rest →
      EndsNumeral rest' → v.compactChars ++ rest = w.compactChars ++ rest' →
        v = w ∧ rest = rest') : IsTold v :=
  fun w hw rest rest' hrest hrest' heq =>
    h w hw (kind_eq_of_append hv hw heq) rest rest' hrest hrest' heq

theorem isTold_null : IsTold .null := by
  refine .of_kind rfl fun w hw hkind rest rest' _ _ h => ?_
  cases w with
  | null => exact ⟨rfl, List.append_cancel_left h⟩
  | _ => simp [kind] at hkind

theorem isTold_bool (b : Bool) : IsTold (.bool b) := by
  refine .of_kind rfl fun w hw hkind rest rest' _ _ h => ?_
  cases w with
  | bool b' => cases b <;> cases b' <;> simp_all [compactChars]
  | _ => simp [kind] at hkind

theorem isTold_int (n : Int) : IsTold (.int n) := by
  refine .of_kind rfl fun w hw hkind rest rest' hrest hrest' h => ?_
  cases w with
  | int m =>
      obtain ⟨rfl, hrests⟩ := toString_append_inj hrest hrest' h
      exact ⟨rfl, hrests⟩
  | float x => cases hw
  | _ => simp [kind] at hkind

theorem isTold_string (s : String) : IsTold (.string s) := by
  refine .of_kind rfl fun w hw hkind rest rest' _ _ h => ?_
  cases w with
  | string t =>
      obtain ⟨htexts, hrests⟩ := quote_append_inj h
      exact ⟨congrArg _ (String.toList_inj.mp htexts), hrests⟩
  | _ => simp [kind] at hkind

theorem isTold_array {items : List Value} (h : ∀ v ∈ items, v.isFloatless ∧ IsTold v) :
    IsTold (.array items) := by
  refine .of_kind ((isFloatless_array items).mpr fun v hv => (h v hv).1)
    fun w hw hkind rest rest' _ _ heq => ?_
  cases w with
  | array others =>
      simp only [compactChars, compactItems_eq, List.cons_append, List.cons.injEq, true_and] at heq
      obtain ⟨rfl, hrests⟩ := joinFields_append_inj (by decide) (by decide)
        (fun v hv _ _ => append_ne_bracket hv) h ((isFloatless_array others).mp hw) heq
      exact ⟨rfl, hrests⟩
  | _ => simp [kind] at hkind

theorem toldApart_memberChars {m : String × Value} (h : IsTold m.2) :
    ToldApart memberChars (fun m => m.2.isFloatless = true) m := by
  intro m' hm' rest rest' hrest hrest' heq
  simp only [memberChars, List.append_assoc, List.cons_append] at heq
  obtain ⟨hnames, hvalues⟩ := quote_append_inj heq
  obtain ⟨hvalue, hrests⟩ := h m'.2 hm' rest rest' hrest hrest' (List.cons.inj hvalues).2
  exact ⟨Prod.ext (String.toList_inj.mp hnames) hvalue, hrests⟩

theorem isTold_object {members : Members} (h : ∀ m ∈ members, m.2.isFloatless ∧ IsTold m.2) :
    IsTold (.object members) := by
  refine .of_kind ((isFloatless_object members).mpr fun m hm => (h m hm).1)
    fun w hw hkind rest rest' _ _ heq => ?_
  cases w with
  | object others =>
      simp only [compactChars, compactMembers_eq, List.cons_append, List.cons.injEq,
        true_and] at heq
      obtain ⟨rfl, hrests⟩ := joinFields_append_inj (by decide) (by decide)
        (fun m hm rest rest' => by simp [memberChars, quote])
        (fun m hm => ⟨(h m hm).1, toldApart_memberChars (h m hm).2⟩)
        ((isFloatless_object others).mp hw) heq
      exact ⟨rfl, hrests⟩
  | _ => simp [kind] at hkind

/-- The text of a value without doubles tells which value it is, and where it ends. -/
theorem isTold {v : Value} (hv : v.isFloatless) : IsTold v := by
  induction v using induct with
  | null => exact isTold_null
  | bool b => exact isTold_bool b
  | int n => exact isTold_int n
  | float x => cases hv
  | string s => exact isTold_string s
  | array items ih =>
      have hitems := (isFloatless_array items).mp hv
      exact isTold_array fun v hmem => ⟨hitems v hmem, ih v hmem (hitems v hmem)⟩
  | object members ih =>
      have hmembers := (isFloatless_object members).mp hv
      exact isTold_object fun m hmem => ⟨hmembers m hmem, ih m hmem (hmembers m hmem)⟩

theorem compact_inj {v w : Value} (hv : v.isFloatless) (hw : w.isFloatless) :
    v.compact = w.compact ↔ v = w := by
  refine ⟨fun h => ?_, fun h => h ▸ rfl⟩
  have hend : EndsNumeral [] := nofun
  refine (isTold hv w hw [] [] hend hend ?_).1
  rw [List.append_nil, List.append_nil]
  exact String.ofList_injective h

end Value

end BrowserSuite.Json
