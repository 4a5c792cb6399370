/-!
# Double-precision numbers

A double is kept as what it stands for: a sign, a whole mantissa and a power of
two.  Reading a decimal and dividing are exact arithmetic on natural numbers
followed by one rounding to the nearest double, where a tie goes to the even
mantissa; nothing here depends on the machine's floating-point unit.
-/

namespace BrowserSuite.Number

/-- A quotient rounded to the nearest whole number, a tie going to the even one. -/
def roundDiv (num den : Nat) : Nat :=
  let q := num / den
  let twice := 2 * (num % den)
  if den < twice || (twice == den && q % 2 == 1) then q + 1 else q

/-- A finite double, `± mantissa · 2 ^ exponent`.  A number that comes from
`nearest` has the smallest exponent from -1074 up at which its mantissa is
below `2 ^ 53`. -/
structure Binary64 where
  negative : Bool
  mantissa : Nat
  exponent : Int
  deriving DecidableEq, Repr, Inhabited

namespace Binary64

/-- Zero, with its sign. -/
def zero (negative : Bool) : Binary64 := ⟨negative, 0, -1074⟩

/-- Whether a double is zero, of either sign. -/
def isZero (x : Binary64) : Bool := x.mantissa == 0

/-- The exact magnitude as a fraction: numerator and denominator. -/
def magnitude (x : Binary64) : Nat × Nat :=
  if 0 ≤ x.exponent then (x.mantissa * Nat.pow 2 x.exponent.toNat, 1)
  else (x.mantissa, Nat.pow 2 (-x.exponent).toNat)

/-- The mantissa at a given exponent, rounded. -/
def mantissaAt (num den : Nat) (exponent : Int) : Nat :=
  if 0 ≤ exponent then roundDiv num (den * Nat.pow 2 exponent.toNat)
  else roundDiv (num * Nat.pow 2 (-exponent).toNat) den

/-- The double nearest to a fraction, or none beyond the largest double. -/
def nearest (negative : Bool) (num den : Nat) : Option Binary64 :=
  if num = 0 then some (zero negative)
  else
    let guess : Int := (num.log2 : Int) - (den.log2 : Int) - 53
    let start := max guess (-1074)
    let step := fun (e : Int) => if mantissaAt num den e < Nat.pow 2 53 then e else e + 1
    let exponent := step (step start)
    let mantissa := mantissaAt num den exponent
    if 971 < exponent then none else some ⟨negative, mantissa, exponent⟩

/-- The double nearest to `± digits · 10 ^ exponent`, or none beyond the largest
double.  Exponents far outside the range of doubles are decided without
computing the power. -/
def ofDecimal (negative : Bool) (digits : Nat) (exponent : Int) : Option Binary64 :=
  if digits = 0 then some (zero negative)
  else
    let places : Int := (toString digits).length
    if 400 < exponent + places then none
    else if exponent + places < -400 then some (zero negative)
    else if 0 ≤ exponent then nearest negative (digits * Nat.pow 10 exponent.toNat) 1
    else nearest negative digits (Nat.pow 10 (-exponent).toNat)

/-- The product, rounded, or none beyond the largest double. -/
def mul (x y : Binary64) : Option Binary64 :=
  let (a, b) := x.magnitude
  let (c, d) := y.magnitude
  nearest (x.negative != y.negative) (a * c) (b * d)

/-- The quotient by a double that is not zero, rounded. -/
def div (x y : Binary64) : Option Binary64 :=
  let (a, b) := x.magnitude
  let (c, d) := y.magnitude
  nearest (x.negative != y.negative) (a * d) (b * c)

/-- The double nearest to a power of ten. -/
def powerOfTen (n : Nat) : Option Binary64 := nearest false (Nat.pow 10 n) 1

/-- A double times a power of ten, where the power is rounded before the product
is.  The largest power of ten that is a double is the 308th; a smaller number than
its inverse is reached in two divisions. -/
def scale (x : Binary64) (exponent : Int) : Option Binary64 := do
  if x.isZero then pure x
  else if 308 < exponent then none
  else if 0 ≤ exponent then x.mul (← powerOfTen exponent.toNat)
  else if -308 ≤ exponent then x.div (← powerOfTen (-exponent).toNat)
  else if -616 ≤ exponent then
    (← x.div (← powerOfTen 308)).div (← powerOfTen (-exponent - 308).toNat)
  else pure (zero x.negative)

/-- The quotient by a whole number that is not zero, rounded. -/
def divNat (x : Binary64) (n : Nat) : Option Binary64 :=
  let (num, den) := x.magnitude
  nearest x.negative num (den * n)

/-- Equality of values: zeros of both signs are equal. -/
def sameValue (x y : Binary64) : Bool := x == y || (x.isZero && y.isZero)

end Binary64

end BrowserSuite.Number
