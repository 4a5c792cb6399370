import BrowserSuite.Text.Blank
import BrowserSuite.Text.Split
import BrowserSuite.Text.Word

/-!
# Filter exports

A filter export lists the suites to run, each as the text of a `key` element.
The rest of an export is of no concern, so it is not read as a document: a key
is what stands between a `<key …>` tag and the nearest `</key>` after it,
whatever that contains.  Tags with a longer name, as `<keyword>`, begin no key.
-/

namespace BrowserSuite

namespace FilterExport

/-- How the tag before a key begins. -/
def opening : List Char := ['<', 'k', 'e', 'y']

/-- What ends a key. -/
def closing : List Char := ['<', '/', 'k', 'e', 'y', '>']

/-- The text of an element and what comes after it, given what comes after the
name in its first tag.  The name has to end there. -/
def element? (s : List Char) : Option (List Char × List Char) :=
  if s.head?.any Text.isWord then none
  else Text.cut? closing ((s.dropWhile (· ≠ '>')).drop 1)

theorem length_element? {s text rest : List Char} (h : element? s = some (text, rest)) :
    rest.length ≤ s.length := by
  unfold element? at h
  split at h
  · simp at h
  · have cut := Text.length_cut? h
    have tag := (List.dropWhile_sublist (· ≠ '>') (l := s)).length_le
    simp only [List.length_drop] at cut
    omega

/-- The texts of all elements, in order. -/
def elements : List Char → List (List Char)
  | [] => []
  | c :: rest =>
    if opening.isPrefixOf (c :: rest) then
      match _h : element? (rest.drop (opening.length - 1)) with
      | some (text, after) => text :: elements after
      | none => elements rest
    else elements rest
termination_by s => s.length
decreasing_by
  · have := length_element? _h
    simp only [List.length_drop, List.length_cons] at this ⊢
    omega
  · simp
  · simp

/-- The keys that a filter export lists, in order and without blanks around
them.  An empty one counts for nothing. -/
def keys (text : String) : List String :=
  ((elements text.toList).map fun key => String.ofList (Text.trimChars key)).filter (· ≠ "")

end FilterExport

end BrowserSuite
