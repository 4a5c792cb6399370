import BrowserSuite.Number.Binary64

/-!
# JSON values

The values that a store variable can hold.  A number is a whole number or a
double, and the two are never equal: `1` is not `1.0`.  The members of an
object are kept in increasing order of their names, each name once, so that an
object does not remember the order in which it was written.

Names are compared by their characters' code points, which is also the order of
their UTF-8 bytes.
-/

namespace BrowserSuite.Json

/-- A JSON value. -/
inductive Value where
  | null
  | bool (b : Bool)
  | int (n : Int)
  | float (x : Number.Binary64)
  | string (s : String)
  | array (items : List Value)
  | object (members : List (String × Value))
  deriving Inhabited

/-- Members in increasing order of their names. -/
abbrev Members := List (String × Value)

/-- Adds a member at its place; a member of the same name is replaced. -/
def insertMember (name : String) (value : Value) : Members → Members
  | [] => [(name, value)]
  | (n, v) :: rest =>
    if name = n then (name, value) :: rest
    else if name < n then (name, value) :: (n, v) :: rest
    else (n, v) :: insertMember name value rest

/-- The value of the member of that name. -/
def findMember (name : String) : Members → Option Value
  | [] => none
  | (n, v) :: rest => if name = n then some v else findMember name rest

/-- Members whose names increase. -/
def Increasing (members : Members) : Prop := members.Pairwise fun a b => a.1 < b.1

theorem lt_or_lt_of_ne {a b : String} (h : a ≠ b) : a < b ∨ b < a := by
  grind

private theorem mem_insertMember {name : String} {value : Value} {m : String × Value}
    {members : Members} (h : m ∈ insertMember name value members) :
    m.1 = name ∨ m ∈ members := by
  induction members with
  | nil => simp_all [insertMember]
  | cons head rest ih =>
    obtain ⟨n, v⟩ := head
    simp only [insertMember] at h
    split at h
    · rcases List.mem_cons.1 h with rfl | h
      · exact .inl rfl
      · exact .inr (List.mem_cons_of_mem _ h)
    · split at h
      · rcases List.mem_cons.1 h with rfl | h
        · exact .inl rfl
        · exact .inr h
      · rcases List.mem_cons.1 h with rfl | h
        · exact .inr (List.mem_cons_self ..)
        · exact (ih h).imp_right (List.mem_cons_of_mem _)

theorem increasing_insertMember {members : Members} (name : String) (value : Value)
    (h : Increasing members) : Increasing (insertMember name value members) := by
  induction members with
  | nil => simp [insertMember, Increasing]
  | cons head rest ih =>
    obtain ⟨n, v⟩ := head
    obtain ⟨hn, hrest⟩ := List.pairwise_cons.1 h
    simp only [insertMember]
    split
    · rename_i heq
      subst heq
      exact List.pairwise_cons.2 ⟨hn, hrest⟩
    · rename_i hne
      split
      · rename_i hlt
        refine List.pairwise_cons.2 ⟨?_, h⟩
        intro m hm
        rcases List.mem_cons.1 hm with rfl | hm
        · exact hlt
        · exact String.lt_trans hlt (hn m hm)
      · rename_i hnlt
        refine List.pairwise_cons.2 ⟨?_, ih hrest⟩
        intro m hm
        rcases mem_insertMember hm with hname | hm
        · rw [hname]
          exact (lt_or_lt_of_ne hne).resolve_left hnlt
        · exact hn m hm

theorem findMember_insertMember_self (name : String) (value : Value) (members : Members) :
    findMember name (insertMember name value members) = some value := by
  induction members with
  | nil => simp [insertMember, findMember]
  | cons head rest ih =>
    obtain ⟨n, v⟩ := head
    simp only [insertMember]
    split
    · simp [findMember]
    · split
      · simp [findMember]
      · rename_i hne _
        simp [findMember, hne, ih]

theorem findMember_insertMember_of_ne {name other : String} (value : Value) (members : Members)
    (h : other ≠ name) :
    findMember other (insertMember name value members) = findMember other members := by
  induction members with
  | nil => simp [insertMember, findMember, h]
  | cons head rest ih =>
    obtain ⟨n, v⟩ := head
    simp only [insertMember]
    split
    · rename_i heq
      subst heq
      simp [findMember, h]
    · split
      · simp [findMember, h]
      · simp only [findMember, ih]

namespace Value

/-- The object of some members; of members with one name the last one counts. -/
def ofMembers (members : Members) : Value :=
  .object (members.foldl (fun sorted m => insertMember m.1 m.2 sorted) [])

/-- The value of an object's member. -/
def get? (name : String) : Value → Option Value
  | .object members => findMember name members
  | _ => none

private theorem findMember_foldl (name : String) (members sorted : Members) :
    findMember name (members.foldl (fun sorted m => insertMember m.1 m.2 sorted) sorted) =
      (members.reverse.lookup name).or (findMember name sorted) := by
  induction members generalizing sorted with
  | nil => rfl
  | cons m rest ih =>
    obtain ⟨n, v⟩ := m
    rw [List.foldl_cons, ih, List.reverse_cons, List.lookup_append, Option.or_assoc]
    congr 1
    by_cases h : name = n
    · subst h
      rw [findMember_insertMember_self]
      simp
    · rw [findMember_insertMember_of_ne v sorted h]
      simp [List.lookup_cons, beq_eq_false_iff_ne.mpr h]

/-- Of an object's members with one name the last one counts. -/
theorem get?_ofMembers (name : String) (members : Members) :
    (ofMembers members).get? name = members.reverse.lookup name :=
  (findMember_foldl name members []).trans (Option.or_none ..)

mutual

/-- Equality of values.  Doubles are equal when their values are, so the zeros
of both signs are equal. -/
def same : Value → Value → Bool
  | .null, .null => true
  | .bool a, .bool b => a == b
  | .int a, .int b => a == b
  | .float a, .float b => a.sameValue b
  | .string a, .string b => a == b
  | .array a, .array b => sameItems a b
  | .object a, .object b => sameMembers a b
  | _, _ => false

/-- Equality of the items of two arrays. -/
def sameItems : List Value → List Value → Bool
  | [], [] => true
  | a :: as, b :: bs => same a b && sameItems as bs
  | _, _ => false

/-- Equality of the members of two objects. -/
def sameMembers : List (String × Value) → List (String × Value) → Bool
  | [], [] => true
  | (n, a) :: as, (m, b) :: bs => n == m && same a b && sameMembers as bs
  | _, _ => false

end

end Value

end BrowserSuite.Json
