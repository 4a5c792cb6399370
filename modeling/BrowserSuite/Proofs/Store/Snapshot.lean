import BrowserSuite.Proofs.Json.Order

/-!
# The text form of a store

Every log begins with the text form of the store that its run has started from.  Among stores
without doubles it tells the store: two of them have one text form exactly if they are equal, and
then it makes no difference in which order their variables have been set or the members of
objects in them have been given (`snapshot_tells_store`).

Doubles are left out because the zeros of both signs are equal and are written differently.
-/

namespace BrowserSuite

open Json

namespace Json.Value

theorem sameItems_iff {as bs : List Value}
    (h : ∀ v ∈ as, ∀ w, v.same w = true ↔ v = w) : sameItems as bs = true ↔ as = bs := by
  induction as generalizing bs with
  | nil => cases bs <;> simp [sameItems]
  | cons v as ih =>
      obtain ⟨hv, has⟩ := List.forall_mem_cons.mp h
      cases bs <;> simp [sameItems, hv, ih has]

theorem sameMembers_iff {as bs : Members}
    (h : ∀ m ∈ as, ∀ w, m.2.same w = true ↔ m.2 = w) : sameMembers as bs = true ↔ as = bs := by
  induction as generalizing bs with
  | nil => cases bs <;> simp [sameMembers]
  | cons m as ih =>
      obtain ⟨hm, has⟩ := List.forall_mem_cons.mp h
      cases bs <;> simp [sameMembers, hm, ih has, Prod.ext_iff]

/-- Values without doubles are equal if nothing in them differs. -/
theorem same_iff {v : Value} (hv : v.isFloatless) (w : Value) : v.same w = true ↔ v = w := by
  induction v using induct generalizing w with
  | float x => cases hv
  | array items ih =>
      have hitems := (isFloatless_array items).mp hv
      cases w with
      | array others =>
          rw [same, sameItems_iff fun v hmem => ih v hmem (hitems v hmem), array.injEq]
      | _ => simp [same]
  | object members ih =>
      have hmembers := (isFloatless_object members).mp hv
      cases w with
      | object others =>
          rw [same, sameMembers_iff fun m hmem => ih m hmem (hmembers m hmem), object.injEq]
      | _ => simp [same]
  | _ => cases w <;> simp [same]

end Json.Value

namespace Store

/-- Whether no double is in the values of a store. -/
def IsFloatless (s : Store) : Prop := ∀ m ∈ s.members, m.2.isFloatless

theorem IsFloatless.object {s : Store} (h : s.IsFloatless) :
    (Value.object s.members).isFloatless :=
  (Value.isFloatless_object s.members).mpr h

theorem members_inj {s t : Store} : s.members = t.members ↔ s = t :=
  ⟨fun h => ext_get? fun key => congrArg (findMember key) h, fun h => h ▸ rfl⟩

theorem snapshot_eq_iff {s t : Store} (hs : s.IsFloatless) (ht : t.IsFloatless) :
    s.snapshot = t.snapshot ↔ s = t := by
  rw [snapshot, snapshot, Value.compact_inj hs.object ht.object, Value.object.injEq, members_inj]

theorem same_iff {s t : Store} (hs : s.IsFloatless) : s.same t = true ↔ s = t := by
  rw [same, Value.sameMembers_iff fun m hmem => Value.same_iff (hs m hmem), members_inj]

-- Minus zero is zero, but it is written with its sign.
example :
    let s := empty.set "x" (.float (.zero true))
    let t := empty.set "x" (.float (.zero false))
    s.same t = true ∧ s.snapshot ≠ t.snapshot := by
  decide +kernel

/-- The store in which variables have been set one after the other, each to what becomes of the
value that is given for it. -/
def given (members : Members) : Store := ofMembers (Value.settledMembers members)

theorem given_eq_of_rearranged {as bs : Members}
    (h : Value.Rearranged (.object as) (.object bs)) : given as = given bs := by
  have hsettled := h.settled_eq
  rwa [Value.settled, Value.settled, Value.ofMembers_eq_members, Value.ofMembers_eq_members,
    Value.object.injEq, members_inj] at hsettled

/-- Two stores without doubles have one text form exactly if they are equal, and that is, if every
variable has the same value in both.  The text form does not show in which order the variables have
been set, or in which order the members of an object in one of their values have been given, at
whatever depth it is; only if a name is given twice the later value counts. -/
theorem snapshot_tells_store :
    (∀ s t : Store, s.IsFloatless → t.IsFloatless →
      (s.snapshot = t.snapshot ↔ s = t) ∧ (s.snapshot = t.snapshot ↔ s.same t = true) ∧
        (s.snapshot = t.snapshot ↔ ∀ key, s.get? key = t.get? key)) ∧
    ∀ as bs : Members, Value.Rearranged (.object as) (.object bs) →
      (given as).snapshot = (given bs).snapshot := by
  constructor
  · intro s t hs ht
    have heq := snapshot_eq_iff hs ht
    exact ⟨heq, heq.trans (same_iff hs).symm, heq.trans ⟨fun h _ => h ▸ rfl, ext_get?⟩⟩
  · intro as bs h
    rw [given_eq_of_rearranged h]

/-- Values that look like each other. -/
def lookalikes : List Value :=
  [.null, .string "null", .bool true, .string "true", .int 1, .string "1", .string "01",
    .array [.int 1], .string "[1]", .array [.array [.int 1]], .array [.int 1, .int 1],
    .array [.int 11], .string "\"", .string "\\\"", .string "\n", .string "\\n", .string "\x01",
    .string "\\u0001", .object [], .array [], .string ""]

/-- No two of them are written alike; and two variables set the other way round, one of them to an
object that is given the other way round. -/
theorem snapshot_tells_store_lookalikes :
    (lookalikes.Pairwise fun v w =>
      (empty.set "x" v).snapshot ≠ (empty.set "x" w).snapshot) ∧
    (given [("a", .int 1), ("b", .object [("y", .array []), ("x", .null)])]).snapshot =
      (given [("b", .object [("x", .null), ("y", .array [])]), ("a", .int 1)]).snapshot := by
  obtain ⟨htells, horder⟩ := snapshot_tells_store
  constructor
  · have hfloatless : ∀ v ∈ lookalikes, (empty.set "x" v).IsFloatless := by
      intro v hv m hm
      have hall : ∀ v ∈ lookalikes, v.isFloatless = true := by decide +kernel
      obtain rfl := List.mem_singleton.mp hm
      exact hall v hv
    have hdiffer : lookalikes.Pairwise fun v w =>
        (empty.set "x" v).same (empty.set "x" w) = false := by
      decide +kernel
    refine hdiffer.imp_of_mem fun {v w} hv hw hsame heq => ?_
    have hequal := (htells _ _ (hfloatless v hv) (hfloatless w hw)).2.1.mp heq
    rw [hsame] at hequal
    cases hequal
  · have hinner : Value.Rearranged (.object [("y", .array []), ("x", .null)])
        (.object [("x", .null), ("y", .array [])]) :=
      .members (reordered_of_perm (.swap ..) (by decide))
    have houter : Reordered [("a", .int 1), ("b", .object [("x", .null), ("y", .array [])])]
        [("b", .object [("x", .null), ("y", .array [])]), ("a", .int 1)] :=
      reordered_of_perm (.swap ..) (by decide)
    exact horder _ _ (.trans (.member [("a", .int 1)] [] "b" hinner) (.members houter))

end Store

end BrowserSuite
