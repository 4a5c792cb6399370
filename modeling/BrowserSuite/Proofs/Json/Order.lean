import BrowserSuite.Store
import BrowserSuite.Proofs.Json.Compact
import Mathlib.Data.List.Sort

/-!
# The order of members

An object keeps its members in the order of their names, so that it does not matter in which
order they are given, at whatever depth.  `Rearranged` says when two values differ in this only,
and `settled` is what a value becomes when it is held: then such values are the same
(`Rearranged.settled_eq`).

Where members are in order, they are what their look-ups give (`Increasing.eq_of_findMember`); and
adding members one by one, to an object as to a store, puts them in order
(`ofMembers_eq_members`).
-/

namespace BrowserSuite.Json

/-! ## Members in order -/

section Increasing

variable {members as bs : Members} {name : String} {v : Value}

theorem findMember_eq_some_iff (h : Increasing members) :
    findMember name members = some v ↔ (name, v) ∈ members := by
  induction members with
  | nil => simp [findMember]
  | cons m members ih =>
      obtain ⟨other, w⟩ := m
      obtain ⟨hother, hmembers⟩ := List.pairwise_cons.mp h
      rw [findMember, List.mem_cons, Prod.mk.injEq]
      by_cases heq : name = other
      · have hnot : (name, v) ∉ members := fun hmem =>
          absurd (heq ▸ hother _ hmem) (String.lt_irrefl _)
        simp [heq, heq ▸ hnot, eq_comm]
      · simpa [heq] using ih hmembers

/-- Members in order are determined by what is found among them. -/
theorem Increasing.eq_of_findMember (has : Increasing as) (hbs : Increasing bs)
    (h : ∀ name, findMember name as = findMember name bs) : as = bs := by
  have hirrefl : Std.Irrefl fun a b : String × Value => a.1 < b.1 := ⟨fun a => String.lt_irrefl _⟩
  refine List.Pairwise.eq_of_mem_iff has hbs fun m => ?_
  rw [← findMember_eq_some_iff has, ← findMember_eq_some_iff hbs, h]

end Increasing

/-! ## Members as they are given -/

/-- The same members in another order, in which those of one name are not exchanged.  Of members
with one name the last one counts. -/
def Reordered (as bs : Members) : Prop :=
  ∀ name, as.filter (·.1 == name) = bs.filter (·.1 == name)

/-- Where each name is given once, every order will do. -/
theorem reordered_of_perm {as bs : Members} (hperm : as.Perm bs) (hnames : (as.map Prod.fst).Nodup) :
    Reordered as bs := by
  intro name
  have hdistinct {cs : Members} (h : (cs.map Prod.fst).Nodup) :
      (cs.filter (·.1 == name)).Pairwise fun a b => a.1 ≠ b.1 :=
    (List.pairwise_map.mp h).sublist List.filter_sublist
  have hname {cs : Members} {m : String × Value} (h : m ∈ cs.filter (·.1 == name)) :
      m.1 = name := by
    simpa using List.of_mem_filter h
  -- Two members with that name would be told apart by their names.
  refine (hperm.filter _).eq_of_pairwise (fun a b ha hb hne _ => ?_) (hdistinct hnames)
    (hdistinct ((hperm.map _).nodup_iff.mp hnames))
  exact absurd ((hname ha).trans (hname hb).symm) hne

theorem lookup_eq_head?_filter (members : Members) (name : String) :
    members.lookup name = ((members.filter (·.1 == name)).head?).map Prod.snd := by
  induction members with
  | nil => rfl
  | cons m members ih =>
      obtain ⟨other, v⟩ := m
      by_cases h : name = other
      · simp [h]
      · have hne : (name == other) = false := beq_eq_false_iff_ne.mpr h
        have hne' : (other == name) = false := beq_eq_false_iff_ne.mpr (Ne.symm h)
        simp [List.lookup_cons, hne, hne', ih]

namespace Value

theorem ofMembers_eq_members (members : Members) :
    ofMembers members = .object (Store.ofMembers members).members := by
  have hfold (sorted : Store) :
      members.foldl (fun sorted m => insertMember m.1 m.2 sorted) sorted.members =
        (members.foldl (fun s m => s.set m.1 m.2) sorted).members := by
    induction members generalizing sorted with
    | nil => rfl
    | cons m members ih => exact ih (sorted.set m.1 m.2)
  exact congrArg object (hfold Store.empty)

end Value

end BrowserSuite.Json

namespace BrowserSuite.Store

open Json

/-- A store is what its look-ups give. -/
theorem ext_get? {s t : Store} (h : ∀ key, s.get? key = t.get? key) : s = t := by
  obtain ⟨members, hmembers⟩ := s
  obtain ⟨others, hothers⟩ := t
  obtain rfl := hmembers.eq_of_findMember hothers h
  rfl

/-- Of the values that a variable is given the last one counts. -/
theorem get?_ofMembers (members : Members) (key : String) :
    (ofMembers members).get? key = members.reverse.lookup key := by
  have h := Value.get?_ofMembers key members
  rwa [Value.ofMembers_eq_members] at h

theorem ofMembers_eq_of_reordered {as bs : Members} (h : Reordered as bs) :
    ofMembers as = ofMembers bs := by
  refine ext_get? fun key => ?_
  rw [get?_ofMembers, get?_ofMembers, lookup_eq_head?_filter, lookup_eq_head?_filter,
    List.filter_reverse, List.filter_reverse, h key]

end BrowserSuite.Store

namespace BrowserSuite.Json.Value

/-! ## Values as they are given -/

mutual

/-- A value as it is held: the members of every object in it are in order, and of those with one
name the last one is left. -/
def settled : Value → Value
  | .array items => .array (settledItems items)
  | .object members => ofMembers (settledMembers members)
  | v => v

/-- Values as they are held. -/
def settledItems : List Value → List Value
  | [] => []
  | v :: rest => settled v :: settledItems rest

/-- Members with their values as they are held, but in the order in which they are given. -/
def settledMembers : List (String × Value) → List (String × Value)
  | [] => []
  | (name, v) :: rest => (name, settled v) :: settledMembers rest

end

theorem settledItems_eq (items : List Value) : settledItems items = items.map settled := by
  induction items with
  | nil => rfl
  | cons v items ih => rw [settledItems, ih, List.map_cons]

theorem settledMembers_eq (members : Members) :
    settledMembers members = members.map fun m => (m.1, m.2.settled) := by
  induction members with
  | nil => rfl
  | cons m members ih => rw [settledMembers, ih, List.map_cons]

/-- Values that differ only in the order in which the members of objects in them are given. -/
inductive Rearranged : Value → Value → Prop
  | refl (v : Value) : Rearranged v v
  | trans {u v w : Value} (h : Rearranged u v) (hnext : Rearranged v w) : Rearranged u w
  | item {v w : Value} (before after : List Value) (h : Rearranged v w) :
      Rearranged (.array (before ++ v :: after)) (.array (before ++ w :: after))
  | member {v w : Value} (before after : Members) (name : String) (h : Rearranged v w) :
      Rearranged (.object (before ++ (name, v) :: after)) (.object (before ++ (name, w) :: after))
  | members {as bs : Members} (h : Reordered as bs) : Rearranged (.object as) (.object bs)

theorem reordered_settledMembers {as bs : Members} (h : Reordered as bs) :
    Reordered (settledMembers as) (settledMembers bs) := by
  intro name
  simp only [settledMembers_eq, List.filter_map]
  exact congrArg _ (h name)

/-- The order in which members are given is gone where they are held. -/
theorem Rearranged.settled_eq {v w : Value} (h : Rearranged v w) : v.settled = w.settled := by
  induction h with
  | refl v => rfl
  | trans _ _ ih ihnext => exact ih.trans ihnext
  | item before after _ ih =>
      simp only [settled, settledItems_eq, List.map_append, List.map_cons, ih]
  | member before after name _ ih =>
      simp only [settled, settledMembers_eq, List.map_append, List.map_cons, ih]
  | members h =>
      simp only [settled, ofMembers_eq_members]
      rw [Store.ofMembers_eq_of_reordered (reordered_settledMembers h)]

end BrowserSuite.Json.Value
