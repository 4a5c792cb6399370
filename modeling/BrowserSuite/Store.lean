import BrowserSuite.Json.Printer

/-!
# Variable stores

The variables that the actions of a suite read and write.  Every worker has a
store of its own, made from the caller's; a store is a value, so no worker can
see what another one writes.

Variables are kept in increasing order of their names.  A store is therefore
determined by what its look-ups give, and its text form does not depend on the
order in which the variables were set.
-/

namespace BrowserSuite

open Json

/-- Named values, in increasing order of their names. -/
structure Store where
  members : Members
  increasing : Increasing members

namespace Store

/-- The store without variables. -/
def empty : Store := ⟨[], List.Pairwise.nil⟩

instance : Inhabited Store := ⟨empty⟩

/-- The value of a variable. -/
def get? (s : Store) (key : String) : Option Value := findMember key s.members

/-- The store in which a variable has a new value. -/
def set (s : Store) (key : String) (value : Value) : Store :=
  ⟨insertMember key value s.members, increasing_insertMember key value s.increasing⟩

/-- The store of some variables; of two with one name the later one counts. -/
def ofMembers (members : Members) : Store :=
  members.foldl (fun s m => s.set m.1 m.2) empty

/-- The text of a value: a text is itself, any other value its JSON form. -/
def textOf : Value → String
  | .string s => s
  | v => v.compact

/-- The text of a variable. -/
def text? (s : Store) (key : String) : Option String := (s.get? key).map textOf

/-- Whether a variable is set and true.  Any other value reads as false. -/
def flag (s : Store) (key : String) : Bool :=
  match s.get? key with
  | some (.bool true) => true
  | _ => false

/-- The text form of the whole store: one JSON object without blanks. -/
def snapshot (s : Store) : String := (Value.object s.members).compact

/-- Whether two stores hold the same values under the same names. -/
def same (s t : Store) : Bool := Value.sameMembers s.members t.members

@[simp] theorem get?_set_self (s : Store) (key : String) (value : Value) :
    (s.set key value).get? key = some value :=
  findMember_insertMember_self key value s.members

theorem get?_set_of_ne (s : Store) {key other : String} (value : Value) (h : other ≠ key) :
    (s.set key value).get? other = s.get? other :=
  findMember_insertMember_of_ne value s.members h

end Store

end BrowserSuite
