/-!
# Percent-encoding

An address is written in printable ASCII.  A character that a part of it cannot
hold stands as its UTF-8 bytes, each a percent sign and two digits.  Which ASCII
characters are so written depends on the part; all others are.
-/

namespace BrowserSuite.WebDriver

/-- A hexadecimal digit in upper case. -/
def upperHexDigit (n : Nat) : Char :=
  if n < 10 then Char.ofNat (0x30 + n) else Char.ofNat (0x37 + n)

/-- The value of a hexadecimal digit. -/
def hexDigitValue? (c : Char) : Option Nat :=
  if '0' ≤ c ∧ c ≤ '9' then some (c.toNat - 0x30)
  else if 'a' ≤ c ∧ c ≤ 'f' then some (c.toNat - 0x57)
  else if 'A' ≤ c ∧ c ≤ 'F' then some (c.toNat - 0x37)
  else none

/-- A byte as a percent sign and two digits. -/
def percentByte (b : UInt8) : List Char :=
  ['%', upperHexDigit (b.toNat / 16), upperHexDigit (b.toNat % 16)]

/-- Whether a character is a control character or not ASCII. -/
def isUnprintable (c : Char) : Bool := c.toNat < 0x20 || 0x7e < c.toNat

/-- Encodes the characters of `special` and all that cannot be printed. -/
def percentEncode (special : List Char) (s : List Char) : List Char :=
  s.flatMap fun c =>
    if isUnprintable c || special.contains c then
      (String.utf8EncodeChar c).flatMap percentByte
    else [c]

/-- The bytes of a text in which percent signs before two digits stand for
bytes. -/
def percentDecode : List Char → List UInt8
  | [] => []
  | '%' :: a :: b :: rest =>
    match hexDigitValue? a, hexDigitValue? b with
    | some x, some y => UInt8.ofNat (16 * x + y) :: percentDecode rest
    | _, _ => String.utf8EncodeChar '%' ++ percentDecode (a :: b :: rest)
  | c :: rest => String.utf8EncodeChar c ++ percentDecode rest

/-- The characters encoded in a fragment. -/
def fragmentSpecial : List Char := [' ', '"', '<', '>', '\x60']

/-- The characters encoded in a query; an apostrophe only where the scheme is
one of the web's. -/
def querySpecial (isWeb : Bool) : List Char :=
  [' ', '"', '#', '<', '>'] ++ if isWeb then ['\''] else []

/-- The characters encoded in a path. -/
def pathSpecial : List Char := fragmentSpecial ++ ['#', '?', '\x7b', '\x7d']

/-- The characters encoded in a user name and a password. -/
def userSpecial : List Char :=
  pathSpecial ++ ['/', ':', ';', '=', '@', '[', '\\', ']', '^', '|']

end BrowserSuite.WebDriver
