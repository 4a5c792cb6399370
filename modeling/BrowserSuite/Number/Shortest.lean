import BrowserSuite.Number.Binary64

/-!
# Shortest decimals

The decimal with the fewest digits that reads back as a given double.  For 1,
2, … 17 digits the two neighbours of the double among the decimals of that many
digits are tried; the first count at which one of them reads back wins, and of
two the nearer one, an exact tie going to the even digit.

The text form always shows a fraction or an exponent, so that a reader can tell
a double from a whole number: `1.5`, `100.0`, `0.0025`, `1e16`.
-/

namespace BrowserSuite.Number

/-- A decimal `digits · 10 ^ exponent`. -/
structure Decimal where
  digits : Nat
  exponent : Int
  deriving DecidableEq, Repr, Inhabited

namespace Decimal

/-- How many digits a decimal of positive magnitude `num / den` has before the
point; negative when zeros follow the point. -/
def magnitudeOf (num den : Nat) : Int :=
  if den ≤ num then (toString (num / den)).length
  else
    let rec zeros : Nat → Nat → Int
      | 0, _ => 0
      | fuel + 1, n => if den ≤ n * 10 then 0 else zeros fuel (n * 10) - 1
    zeros 400 num

/-- The whole part of `num / den · 10 ^ (-exponent)`, and twice what remains
compared with one unit. -/
def floorAt (num den : Nat) (exponent : Int) : Nat × Ordering :=
  let (n, d) :=
    if 0 ≤ exponent then (num, den * Nat.pow 10 exponent.toNat)
    else (num * Nat.pow 10 (-exponent).toNat, den)
  (n / d, compare (2 * (n % d)) d)

/-- A decimal without the zeros at the end of its digits. -/
def stripZeros : Nat → Decimal → Decimal
  | 0, x => x
  | fuel + 1, x =>
    if x.digits % 10 = 0 then stripZeros fuel ⟨x.digits / 10, x.exponent + 1⟩ else x

/-- The decimal with `count` digits that reads back as `x` and is nearest to
it, if there is one. -/
def withDigits? (x : Binary64) (count : Nat) : Option Decimal :=
  let (num, den) := x.magnitude
  let exponent := magnitudeOf num den - count
  let (low, half) := floorAt num den exponent
  let readsBack := fun (n : Nat) => Binary64.ofDecimal x.negative n exponent == some x
  let lowFirst := half == .lt || (half == .eq && low % 2 == 0)
  let order := if lowFirst then [low, low + 1] else [low + 1, low]
  (order.find? readsBack).map fun n => stripZeros 20 ⟨n, exponent⟩

/-- The shortest decimal that reads back as a double. -/
def shortest (x : Binary64) : Decimal :=
  if x.isZero then ⟨0, 0⟩
  else
    match (List.range 17).findSome? fun count => withDigits? x (count + 1) with
    | some d => d
    | none => ⟨0, 0⟩

/-- The text of a positive decimal: positional when the first digit stands
between 5 places after the point and 16 before it, else with an exponent. -/
def render (d : Decimal) : String :=
  let digits := toString d.digits
  let count : Int := digits.length
  let point := count + d.exponent
  if 0 ≤ d.exponent ∧ point ≤ 16 then
    digits ++ String.ofList (List.replicate d.exponent.toNat '0') ++ ".0"
  else if 0 < point ∧ point ≤ 16 then
    String.ofList (digits.toList.take point.toNat) ++ "." ++
      String.ofList (digits.toList.drop point.toNat)
  else if -5 < point ∧ point ≤ 0 then
    "0." ++ String.ofList (List.replicate (-point).toNat '0') ++ digits
  else if digits.length = 1 then
    digits ++ "e" ++ toString (point - 1)
  else
    String.ofList (digits.toList.take 1) ++ "." ++ String.ofList (digits.toList.drop 1) ++
      "e" ++ toString (point - 1)

/-- The text of a positive decimal without an exponent. -/
def positional (d : Decimal) : String :=
  let digits := (toString d.digits).toList
  if 0 ≤ d.exponent then
    String.ofList (digits ++ List.replicate d.exponent.toNat '0') ++ ".0"
  else
    let places := (-d.exponent).toNat
    let padded := List.replicate (places + 1 - digits.length) '0' ++ digits
    String.ofList (padded.take (padded.length - places)) ++ "." ++
      String.ofList (padded.drop (padded.length - places))

end Decimal

/-- The text of a double: the shortest decimal that reads back. -/
def Binary64.render (x : Binary64) : String :=
  (if x.negative then "-" else "") ++ (Decimal.shortest x).render

/-- The text of a double without an exponent. -/
def Binary64.positional (x : Binary64) : String :=
  (if x.negative then "-" else "") ++ (Decimal.shortest x).positional

end BrowserSuite.Number
