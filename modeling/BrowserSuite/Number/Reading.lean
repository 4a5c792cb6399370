import BrowserSuite.Number.Binary64

/-!
# Numbers written as text

Whole numbers without a sign other than plus, below a bound, and doubles in
decimal or by name.  Nothing else may stand in the text, not even a blank.
-/

namespace BrowserSuite.Number

/-- The value of a list of decimal digits that is not empty. -/
def digitsValue? (s : List Char) : Option Nat :=
  if s ≠ [] ∧ s.all Char.isDigit then
    some (s.foldl (fun n c => n * 10 + (c.toNat - 0x30)) 0)
  else none

/-- The whole number below `bound` that a text stands for. -/
def unsigned? (bound : Nat) (text : String) : Option Nat :=
  let digits := match text.toList with
    | '+' :: rest => rest
    | s => s
  (digitsValue? digits).filter (· < bound)

/-- A number as a text can name it. -/
inductive DoubleText where
  | finite (x : Binary64)
  | infinite (negative : Bool)
  | notANumber
  deriving DecidableEq, Repr

/-- The exponent of ten behind the letter E, if it is one. -/
def exponentText? (s : List Char) : Option Int :=
  match s with
  | '+' :: rest => (digitsValue? rest).map Int.ofNat
  | '-' :: rest => (digitsValue? rest).map fun n => -(Int.ofNat n)
  | _ => (digitsValue? s).map Int.ofNat

/-- The double of a decimal without its sign: digits with an optional point,
at least one digit in all, and an optional exponent. -/
def decimalText? (negative : Bool) (s : List Char) : Option DoubleText := do
  let whole := s.takeWhile Char.isDigit
  let rest := s.drop whole.length
  let (places, rest) := match rest with
    | '.' :: rest => (rest.takeWhile Char.isDigit, rest.drop (rest.takeWhile Char.isDigit).length)
    | _ => ([], rest)
  let digits ← digitsValue? (whole ++ places)
  let exponent ← match rest with
    | [] => some 0
    | 'e' :: rest | 'E' :: rest => exponentText? rest
    | _ => none
  match Binary64.ofDecimal negative digits (exponent - places.length) with
  | some x => some (.finite x)
  | none => some (.infinite negative)

/-- The double that a text stands for. -/
def double? (text : String) : Option DoubleText :=
  let (negative, s) := match text.toList with
    | '+' :: rest => (false, rest)
    | '-' :: rest => (true, rest)
    | s => (false, s)
  let word := String.ofList (s.map Char.toLower)
  if word = "inf" ∨ word = "infinity" then some (.infinite negative)
  else if word = "nan" then some .notANumber
  else decimalText? negative s

end BrowserSuite.Number
