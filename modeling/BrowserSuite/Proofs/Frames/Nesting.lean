import BrowserSuite.Browser.Scripted
import Mathlib.Data.List.Chain
import Mathlib.Data.List.Nodup

/-!
# The order of frames

A frame is reached from the document through the frames around it, so a path, the list of
these frames from the outside in, stands for a place in the tree of frames.  Two frames may
have the same name, but never the same path.

The main result is that `preorder` lists the places that can be reached without entering a
barred frame (`mem_preorder_iff`), each of them once (`nodup_map_endOf_preorder`) and in the
order of the document (`pairwise_preorder`): a frame comes before the frames inside it, and
these come before the next frame beside it.

Frames are numbered in the order in which they were added, so the numbers grow along every
path.  This is what bounds the depth of the tree (`Below.add_length_lt`).
-/

namespace BrowserSuite.Scripted

variable {b : Scripted} {barred : String → Bool} {path rest : List Nat} {i k : Nat}

/-! ## Trees of frames -/

/-- The frame that a frame is directly inside of. -/
def parentOf (b : Scripted) (k : Nat) : Option Nat := b.frames[k]?.bind Frame.parent

/-- The frames form a tree: what a frame lists as directly inside it was added later, is
listed once, and says the same of its parent. -/
structure Nested (b : Scripted) : Prop where
  later : ∀ {i k}, k ∈ b.childrenOf i → i < k
  parent : ∀ {i k}, k ∈ b.childrenOf i → b.parentOf k = some i
  nodup : ∀ i, (b.childrenOf i).Nodup

theorem lt_length_of_parentOf (h : b.parentOf k = some i) : k < b.frames.length := by
  obtain ⟨f, hf, -⟩ := Option.bind_eq_some_iff.mp h
  exact (List.getElem?_eq_some_iff.mp hf).1

theorem nested_blank : blank.Nested := by
  have hempty : ∀ i, blank.childrenOf i = [] := by
    intro i
    cases i <;> rfl
  refine ⟨?_, ?_, ?_⟩ <;> intro i <;> simp [hempty]

theorem getElem?_frames_addFrame (b : Scripted) {parent : Nat} (name : String)
    (hparent : parent < b.frames.length) (i : Nat) :
    (b.addFrame parent name).frames[i]? =
      if i = b.frames.length then some ⟨name, some parent, []⟩
      else b.frames[i]?.map fun f =>
        if i = parent then { f with children := f.children ++ [b.frames.length] } else f := by
  simp only [addFrame, List.getElem?_modify, List.getElem?_append]
  rcases Nat.lt_trichotomy i b.frames.length with hlt | rfl | hgt
  · simp only [hlt, hlt.ne, ↓reduceIte, eq_comm]
    rfl
  · simp [hparent.ne]
  · simp [hgt.ne', Nat.not_lt.mpr hgt.le, Nat.sub_ne_zero_of_lt hgt]

theorem childrenOf_addFrame (b : Scripted) {parent : Nat} (name : String)
    (hparent : parent < b.frames.length) (i : Nat) :
    (b.addFrame parent name).childrenOf i =
      if i = parent then b.childrenOf i ++ [b.frames.length] else b.childrenOf i := by
  unfold childrenOf
  rw [getElem?_frames_addFrame b name hparent]
  by_cases hi : i = parent
  · subst hi
    simp [hparent.ne, List.getElem?_eq_getElem hparent]
  · by_cases hnew : i = b.frames.length
    · simp [hnew, hparent.ne']
    · simp only [hi, hnew, ↓reduceIte, Option.map_id']

theorem parentOf_addFrame (b : Scripted) {parent : Nat} (name : String)
    (hparent : parent < b.frames.length) (k : Nat) :
    (b.addFrame parent name).parentOf k =
      if k = b.frames.length then some parent else b.parentOf k := by
  unfold parentOf
  rw [getElem?_frames_addFrame b name hparent]
  split
  · rfl
  · cases b.frames[k]? with
    | none => rfl
    | some f =>
        simp only [Option.map_some, Option.bind_some]
        split <;> rfl

/-- Whatever frames are added inside those that are there, they form a tree. -/
theorem Nested.addFrame (hb : b.Nested) {parent : Nat} (name : String)
    (hparent : parent < b.frames.length) : (b.addFrame parent name).Nested := by
  have hchild : ∀ {i k}, k ∈ (b.addFrame parent name).childrenOf i →
      k ∈ b.childrenOf i ∧ k < b.frames.length ∨ i = parent ∧ k = b.frames.length := by
    intro i k hk
    rw [childrenOf_addFrame b name hparent] at hk
    have hold : k ∈ b.childrenOf i → k < b.frames.length :=
      fun hk => lt_length_of_parentOf (hb.parent hk)
    split at hk
    · next hi => simpa [hi, or_and_right, and_iff_left_of_imp (hi ▸ hold)] using hk
    · exact .inl ⟨hk, hold hk⟩
  refine ⟨?_, ?_, ?_⟩
  · intro i k hk
    rcases hchild hk with ⟨hk, -⟩ | ⟨rfl, rfl⟩
    · exact hb.later hk
    · exact hparent
  · intro i k hk
    rw [parentOf_addFrame b name hparent]
    rcases hchild hk with ⟨hk, hlt⟩ | ⟨rfl, rfl⟩
    · rw [if_neg hlt.ne]
      exact hb.parent hk
    · rw [if_pos rfl]
  · intro i
    rw [childrenOf_addFrame b name hparent]
    split
    · refine (hb.nodup i).append (List.nodup_singleton _) (List.disjoint_singleton.mpr ?_)
      intro hk
      exact absurd (lt_length_of_parentOf (hb.parent hk)) (lt_irrefl _)
    · exact hb.nodup i

/-! ## Places in the tree -/

/-- The frame that a path leads to. -/
def endOf (path : List Nat) : Nat := path.getLastD rootFrame

@[simp] theorem endOf_concat (path : List Nat) (k : Nat) : endOf (path ++ [k]) = k :=
  List.getLastD_concat

theorem currentFrame_of_context (h : b.context = path.reverse) : b.currentFrame = endOf path := by
  unfold currentFrame endOf
  rw [h, List.getLastD_eq_getLast?, List.headD_eq_head?_getD, List.head?_reverse]

/-- A frame that is not barred is directly inside another one. -/
def Enters (b : Scripted) (barred : String → Bool) (i k : Nat) : Prop :=
  k ∈ b.childrenOf i ∧ barred (b.frameName k) = false

/-- A way from a frame down through frames that are not barred. -/
def Below (b : Scripted) (barred : String → Bool) (i : Nat) (path : List Nat) : Prop :=
  (i :: path).IsChain (b.Enters barred)

/-- A way down from the document. -/
def Reaches (b : Scripted) (barred : String → Bool) (path : List Nat) : Prop :=
  b.Below barred rootFrame path

theorem below_nil : b.Below barred i [] := List.isChain_singleton i

theorem below_cons_iff :
    b.Below barred i (k :: rest) ↔ b.Enters barred i k ∧ b.Below barred k rest :=
  List.isChain_cons_cons

theorem reaches_append_iff :
    b.Reaches barred (path ++ rest) ↔ b.Reaches barred path ∧ b.Below barred (endOf path) rest := by
  have hbelow : ∀ i, b.Below barred i (path ++ rest) ↔
      b.Below barred i path ∧ b.Below barred (path.getLastD i) rest := by
    induction path with
    | nil => simp [below_nil]
    | cons k path ih =>
        intro i
        simp only [List.cons_append, below_cons_iff, ih, and_assoc, List.getLastD_cons]
  exact hbelow rootFrame

theorem reaches_concat_iff :
    b.Reaches barred (path ++ [k]) ↔ b.Reaches barred path ∧ b.Enters barred (endOf path) k := by
  rw [reaches_append_iff, below_cons_iff, and_iff_left below_nil]

/-- Frame numbers grow along a path, and there are only so many frames. -/
theorem Below.add_length_lt (hb : b.Nested) (h : b.Below barred i rest) (hrest : rest ≠ []) :
    i + rest.length < b.frames.length := by
  induction rest generalizing i with
  | nil => exact absurd rfl hrest
  | cons k rest ih =>
      obtain ⟨⟨hk, -⟩, hbelow⟩ := below_cons_iff.mp h
      have hlater : i < k := hb.later hk
      by_cases hlast : rest = []
      · have hlt := lt_length_of_parentOf (hb.parent hk)
        simp only [hlast, List.length_cons, List.length_nil]
        omega
      · have hlt := ih hbelow hlast
        rw [List.length_cons]
        omega

theorem Reaches.length_lt (hb : b.Nested) (h : b.Reaches barred path) :
    path.length < b.frameBound + 1 := by
  by_cases hpath : path = []
  · simp [hpath]
  · have hlt := Below.add_length_lt hb h hpath
    unfold frameBound
    omega

/-- A frame has one parent, so there is one path to it. -/
theorem Reaches.eq_of_endOf_eq (hb : b.Nested) {other : List Nat} (h : b.Reaches barred path)
    (hother : b.Reaches barred other) (hend : endOf path = endOf other) : path = other := by
  induction path using List.reverseRecOn generalizing other with
  | nil =>
      cases other using List.reverseRecOn with
      | nil => rfl
      | append_singleton other k =>
          have hlater := hb.later (reaches_concat_iff.mp hother).2.1
          rw [endOf_concat] at hend
          exact absurd hend (Nat.ne_of_lt (Nat.zero_lt_of_lt hlater))
  | append_singleton path k ih =>
      obtain ⟨hpath, hk, -⟩ := reaches_concat_iff.mp h
      rw [endOf_concat] at hend
      cases other using List.reverseRecOn with
      | nil => exact absurd hend (Nat.ne_of_gt (Nat.zero_lt_of_lt (hb.later hk)))
      | append_singleton other k' =>
          obtain ⟨hother', hk', -⟩ := reaches_concat_iff.mp hother
          rw [endOf_concat] at hend
          -- the last frames are the same, so the frames around them are
          have hparent : endOf path = endOf other :=
            Option.some.inj ((hb.parent hk).symm.trans (hend ▸ hb.parent hk'))
          rw [ih hpath hother' hparent, hend]

/-! ## The order of the document -/

/-- One place comes before another: it is around it, or the two are in frames that are
beside each other, in this order. -/
inductive Precedes (b : Scripted) : List Nat → List Nat → Prop
  | around (path : List Nat) (k : Nat) (rest : List Nat) : Precedes b path (path ++ k :: rest)
  | beside (path : List Nat) {i k : Nat} (first rest : List Nat)
      (h : [i, k].Sublist (b.childrenOf (endOf path))) :
      Precedes b (path ++ i :: first) (path ++ k :: rest)

theorem Precedes.ne (hb : b.Nested) {p q : List Nat} (h : Precedes b p q) : p ≠ q := by
  intro heq
  cases h with
  | around path k rest => simp at heq
  | beside path first rest h =>
      obtain ⟨rfl, -⟩ := List.cons.inj (List.append_cancel_left heq)
      simpa using h.nodup (hb.nodup _)

/-- The frames directly inside a frame that are not barred. -/
def openChildren (b : Scripted) (barred : String → Bool) (i : Nat) : List Nat :=
  (b.childrenOf i).filter fun k => !barred (b.frameName k)

theorem mem_openChildren_iff : k ∈ b.openChildren barred i ↔ b.Enters barred i k := by
  simp [openChildren, Enters]

/-- A place and the places inside it, down to some depth, without entering barred frames. -/
def preorder (b : Scripted) (barred : String → Bool) : Nat → List Nat → List (List Nat)
  | 0, _ => []
  | depth + 1, path =>
    path :: (b.openChildren barred (endOf path)).flatMap fun k =>
      preorder b barred depth (path ++ [k])

/-- The places below a path that `preorder` lists are those that are not too deep. -/
theorem mem_preorder_below_iff {p : List Nat} {depth : Nat} :
    p ∈ b.preorder barred depth path ↔
      ∃ rest, p = path ++ rest ∧ b.Below barred (endOf path) rest ∧ rest.length < depth := by
  induction depth generalizing path with
  | zero => simp [preorder]
  | succ depth ih =>
      simp only [preorder, List.mem_cons, List.mem_flatMap, mem_openChildren_iff, ih, endOf_concat]
      constructor
      · rintro (rfl | ⟨k, hk, rest, rfl, hrest, hlength⟩)
        · exact ⟨[], by simp, below_nil, Nat.succ_pos depth⟩
        · exact ⟨k :: rest, by simp, below_cons_iff.mpr ⟨hk, hrest⟩, Nat.succ_lt_succ hlength⟩
      · rintro ⟨rest, rfl, hrest, hlength⟩
        cases rest with
        | nil => exact .inl (List.append_nil path)
        | cons k rest =>
            obtain ⟨hk, hrest⟩ := below_cons_iff.mp hrest
            exact .inr ⟨k, hk, rest, by simp, hrest, Nat.lt_of_succ_lt_succ hlength⟩

/-- From the document, `preorder` lists all places that can be reached. -/
theorem mem_preorder_iff (hb : b.Nested) :
    path ∈ b.preorder barred (b.frameBound + 1) [] ↔ b.Reaches barred path := by
  refine mem_preorder_below_iff.trans ⟨?_, fun h => ⟨path, rfl, h, h.length_lt hb⟩⟩
  rintro ⟨rest, rfl, hrest, -⟩
  exact hrest

/-- `preorder` keeps to the order of the document. -/
theorem pairwise_preorder (depth : Nat) (path : List Nat) :
    (b.preorder barred depth path).Pairwise b.Precedes := by
  induction depth generalizing path with
  | zero => exact List.Pairwise.nil
  | succ depth ih =>
      refine List.pairwise_cons.mpr ⟨?_, List.pairwise_flatMap.mpr ⟨fun k _ => ih _, ?_⟩⟩
      · intro q hq
        obtain ⟨k, -, hq⟩ := List.mem_flatMap.mp hq
        obtain ⟨rest, rfl, -⟩ := mem_preorder_below_iff.mp hq
        rw [List.append_assoc]
        exact .around path k rest
      · -- two places below different children are ordered as these children are
        refine List.pairwise_iff_forall_sublist.mpr ?_
        intro i k hik p hp q hq
        obtain ⟨first, rfl, -⟩ := mem_preorder_below_iff.mp hp
        obtain ⟨rest, rfl, -⟩ := mem_preorder_below_iff.mp hq
        rw [List.append_assoc, List.append_assoc]
        exact .beside path first rest (hik.trans List.filter_sublist)

/-- `preorder` lists no frame twice. -/
theorem nodup_map_endOf_preorder (hb : b.Nested) :
    ((b.preorder barred (b.frameBound + 1) []).map endOf).Nodup := by
  have hnodup : (b.preorder barred (b.frameBound + 1) []).Nodup :=
    (pairwise_preorder _ _).imp fun h => h.ne hb
  refine hnodup.map_on ?_
  intro p hp q hq hend
  exact Reaches.eq_of_endOf_eq hb ((mem_preorder_iff hb).mp hp) ((mem_preorder_iff hb).mp hq) hend

end BrowserSuite.Scripted
