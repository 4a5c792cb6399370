import BrowserSuite.Json.Value
import BrowserSuite.Number.Shortest

/-!
# JSON text

The compact written form of a value, without blanks.  It is how a store is
written at the head of a log and how a variable that is no text is shown.  A
text is written with a quotation mark, a backslash and the characters below
U+0020 escaped, and nothing else.
-/

namespace BrowserSuite.Json

/-- A hexadecimal digit, in lower case. -/
def hexDigit (n : Nat) : Char :=
  if n < 10 then Char.ofNat (0x30 + n) else Char.ofNat (0x57 + n)

/-- A character as it stands between quotation marks. -/
def escapeChar (c : Char) : List Char :=
  if c = '"' then ['\\', '"']
  else if c = '\\' then ['\\', '\\']
  else if c = '\x08' then ['\\', 'b']
  else if c = '\x0c' then ['\\', 'f']
  else if c = '\n' then ['\\', 'n']
  else if c = '\r' then ['\\', 'r']
  else if c = '\t' then ['\\', 't']
  else if c.toNat < 0x20 then
    ['\\', 'u', '0', '0', hexDigit (c.toNat / 16), hexDigit (c.toNat % 16)]
  else [c]

/-- The characters of a text, escaped. -/
def escape : List Char → List Char
  | [] => []
  | c :: rest => escapeChar c ++ escape rest

/-- A text between quotation marks. -/
def quote (s : List Char) : List Char := '"' :: (escape s ++ ['"'])

namespace Value

mutual

/-- The compact form of a value. -/
def compactChars : Value → List Char
  | .null => ['n', 'u', 'l', 'l']
  | .bool true => ['t', 'r', 'u', 'e']
  | .bool false => ['f', 'a', 'l', 's', 'e']
  | .int n => (toString n).toList
  | .float x => x.render.toList
  | .string s => quote s.toList
  | .array items => '[' :: (compactItems items ++ [']'])
  | .object members => '\x7b' :: (compactMembers members ++ ['\x7d'])

/-- The items of an array in compact form, with commas between them. -/
def compactItems : List Value → List Char
  | [] => []
  | [v] => compactChars v
  | v :: w :: rest => compactChars v ++ ',' :: compactItems (w :: rest)

/-- The members of an object in compact form, with commas between them. -/
def compactMembers : List (String × Value) → List Char
  | [] => []
  | [(n, v)] => quote n.toList ++ ':' :: compactChars v
  | (n, v) :: m :: rest =>
    quote n.toList ++ ':' :: (compactChars v ++ ',' :: compactMembers (m :: rest))

end

/-- The compact form of a value. -/
def compact (v : Value) : String := String.ofList v.compactChars

end Value

end BrowserSuite.Json
