/-!
# Separated fields

A text cut at every leftmost occurrence of a separator that does not overlap
the one before it, and the fields put together again.  An empty separator cuts
between all characters and yields an empty first and last field.

The cut works on lists of characters; the functions on `String` at the end are
what the rest of the library calls.
-/

namespace BrowserSuite.Text

/-- Puts a character in front of the first field. -/
def pushFront (c : Char) : List (List Char) → List (List Char)
  | [] => [[c]]
  | field :: rest => (c :: field) :: rest

/-- The fields of a text between the leftmost occurrences of a separator that
is not empty.  There is always at least one field. -/
def fieldsBy (separator : List Char) (text : List Char) : List (List Char) :=
  match text with
  | [] => [[]]
  | c :: rest =>
    if _ : separator.isPrefixOf (c :: rest) ∧ separator ≠ [] then
      [] :: fieldsBy separator ((c :: rest).drop separator.length)
    else
      pushFront c (fieldsBy separator rest)
termination_by text.length
decreasing_by
  · rename_i h
    have := List.length_pos_iff.2 h.2
    simp only [List.length_drop, List.length_cons]
    omega
  · simp

/-- The fields of a text.  With an empty separator they are the single
characters between an empty first and last field. -/
def fields (separator text : List Char) : List (List Char) :=
  if separator = [] then [] :: (text.map fun c => [c]) ++ [[]]
  else fieldsBy separator text

/-- Fields written one after the other with a separator between them. -/
def joinFields (separator : List Char) : List (List Char) → List Char
  | [] => []
  | [field] => field
  | field :: rest => field ++ separator ++ joinFields separator rest

/-- The fields of a text. -/
def split (separator text : String) : List String :=
  (fields separator.toList text.toList).map String.ofList

/-- A text in which every leftmost occurrence of `old`, which is not empty, is
replaced by `new`. -/
def replace (old new text : String) : String :=
  String.ofList (joinFields new.toList (fields old.toList text.toList))

/-- Whether `part` occurs in a text. -/
def occursIn (part : List Char) : List Char → Bool
  | [] => part.isEmpty
  | c :: rest => part.isPrefixOf (c :: rest) || occursIn part rest

/-- Whether a text contains `part`. -/
def contains (text part : String) : Bool := occursIn part.toList text.toList

/-- The text before the leftmost occurrence of a mark and the text after it. -/
def cut? (mark : List Char) : List Char → Option (List Char × List Char)
  | [] => if mark = [] then some ([], []) else none
  | c :: rest =>
    if mark.isPrefixOf (c :: rest) then some ([], (c :: rest).drop mark.length)
    else (cut? mark rest).map fun cut => (c :: cut.1, cut.2)

/-- A cut loses nothing but the mark. -/
theorem eq_of_cut? {mark s before after : List Char} (h : cut? mark s = some (before, after)) :
    s = before ++ mark ++ after := by
  induction s generalizing before with
  | nil =>
    by_cases hm : mark = [] <;> simp_all [cut?]
  | cons c rest ih =>
    by_cases hp : mark.isPrefixOf (c :: rest)
    · simp only [cut?, hp, if_true, Option.some.injEq, Prod.mk.injEq] at h
      obtain ⟨rfl, rfl⟩ := h
      obtain ⟨t, ht⟩ := List.isPrefixOf_iff_prefix.1 hp
      simp [← ht]
    · simp only [cut?, hp, if_false, Option.map_eq_some_iff, Bool.false_eq_true] at h
      obtain ⟨⟨b, a⟩, hb, hc⟩ := h
      simp only [Prod.mk.injEq] at hc
      obtain ⟨rfl, rfl⟩ := hc
      simp [ih hb]

theorem length_cut? {mark s before after : List Char} (h : cut? mark s = some (before, after)) :
    after.length ≤ s.length := by
  have := congrArg List.length (eq_of_cut? h)
  simp only [List.length_append] at this
  omega

/-- Texts written one after the other with a separator between them. -/
def join (separator : String) (texts : List String) : String :=
  separator.intercalate texts

end BrowserSuite.Text
