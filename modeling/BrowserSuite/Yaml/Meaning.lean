import BrowserSuite.Number.Reading
import BrowserSuite.Number.Shortest

/-!
# What plain texts mean

A plain text may stand for nothing, for a truth value or for a number.  Only
these spellings do; `yes` and `012` are texts.
-/

namespace BrowserSuite.Yaml

/-- Whether a plain text stands for nothing. -/
def isNull (text : String) : Bool :=
  text.isEmpty || ["null", "Null", "NULL", "~"].contains text

/-- The truth value of a plain text. -/
def bool? (text : String) : Option Bool :=
  if ["true", "True", "TRUE"].contains text then some true
  else if ["false", "False", "FALSE"].contains text then some false
  else none

/-- The value of a digit in bases up to sixteen. -/
def digit? (c : Char) : Option Nat :=
  if '0' ≤ c ∧ c ≤ '9' then some (c.toNat - 0x30)
  else if 'a' ≤ c ∧ c ≤ 'f' then some (c.toNat - 0x57)
  else if 'A' ≤ c ∧ c ≤ 'F' then some (c.toNat - 0x37)
  else none

/-- The number that some digits write, if there are any and all are digits. -/
def digits? (base : Nat) (digits : List Char) : Option Nat :=
  if digits.isEmpty then none
  else digits.foldlM (fun n c => (digit? c).bind fun d =>
    if d < base then some (n * base + d) else none) 0

/-- Whether a text is a zero followed by more digits, which is no number. -/
def isZeroPadded (digits : List Char) : Bool :=
  1 < digits.length && digits.head? == some '0' && digits.all Char.isDigit

/-- The number behind the sign of a whole number. -/
def magnitude? : List Char → Option Nat
  | '0' :: 'x' :: digits => digits? 16 digits
  | '0' :: 'o' :: digits => digits? 8 digits
  | '0' :: 'b' :: digits => digits? 2 digits
  | digits => if isZeroPadded digits then none else digits? 10 digits

/-- The number that a plain text writes without a minus sign. -/
def natural? (text : String) : Option Nat :=
  match text.toList with
  | '+' :: digits => magnitude? digits
  | digits => magnitude? digits

/-- The number whose negative a plain text writes. -/
def negative? (text : String) : Option Nat :=
  match text.toList with
  | '-' :: digits => magnitude? digits
  | _ => none

/-- A double, or one of the numbers that are none of them. -/
inductive Real where
  | double (x : Number.Binary64)
  | infinite (negative : Bool)
  | notANumber
  deriving DecidableEq, Repr

/-- The real number that a plain text writes. -/
def real? (text : String) : Option Real :=
  let unsigned := match text.toList with
    | '+' :: rest => String.ofList rest
    | _ => text
  if [".inf", ".Inf", ".INF"].contains unsigned then some (.infinite false)
  else if ["-.inf", "-.Inf", "-.INF"].contains text then some (.infinite true)
  else if [".nan", ".NaN", ".NAN"].contains text then some .notANumber
  else
    match unsigned.toList with
    | '+' :: _ => none
    | '-' :: digits =>
      if isZeroPadded digits ∨ unsigned ≠ text then none else finite? unsigned
    | digits => if isZeroPadded digits then none else finite? unsigned
where
  /-- The double that a text names by digits. -/
  finite? (text : String) : Option Real :=
    match Number.double? text with
    | some (.finite x) => some (.double x)
    | _ => none

/-- Whether a text looks like a whole number but is none, because it begins with a
zero. -/
def isZeroPaddedText (text : String) : Bool :=
  match text.toList with
  | '+' :: digits | '-' :: digits | digits => isZeroPadded digits

/-- Whether a plain text means something else than a text: nothing, a truth value
or a number.  A whole number has 128 bits; a longer one is a double. -/
def meansOther (text : String) : Bool :=
  isNull text || (bool? text).isSome || (natural? text).any (· < Nat.pow 2 128) ||
    (negative? text).any (· ≤ Nat.pow 2 127) || (real? text).isSome

end BrowserSuite.Yaml
