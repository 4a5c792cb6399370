import BrowserSuite.Json.Value

/-!
# Reading JSON

The parts of a JSON text, strings, numbers and words, and whole values.  Where a
text is not JSON the failure says what was met and where, so that a line and a
column can be told.
-/

namespace BrowserSuite.Json

/-- What can be wrong with a JSON text. -/
inductive Fault where
  | endInValue
  | endInArray
  | endInObject
  | endInString
  | expectedColon
  | expectedCommaOrBracket
  | expectedCommaOrBrace
  | expectedWord
  | expectedValue
  | invalidEscape
  | invalidNumber
  | loneSurrogate
  | endOfHexEscape
  | controlCharacter
  | nameNotString
  | trailingComma
  | trailingCharacters
  | numberOutOfRange
  | tooDeep
  deriving DecidableEq, Repr

/-- The description of a fault. -/
def Fault.message : Fault → String
  | .endInValue => "EOF while parsing a value"
  | .endInArray => "EOF while parsing a list"
  | .endInObject => "EOF while parsing an object"
  | .endInString => "EOF while parsing a string"
  | .expectedColon => "expected \x60:\x60"
  | .expectedCommaOrBracket => "expected \x60,\x60 or \x60]\x60"
  | .expectedCommaOrBrace => "expected \x60,\x60 or \x60\x7d\x60"
  | .expectedWord => "expected ident"
  | .expectedValue => "expected value"
  | .invalidEscape => "invalid escape"
  | .invalidNumber => "invalid number"
  | .loneSurrogate => "lone leading surrogate in hex escape"
  | .endOfHexEscape => "unexpected end of hex escape"
  | .controlCharacter =>
    "control character (\\u0000-\\u001F) found while parsing a string"
  | .nameNotString => "key must be a string"
  | .trailingComma => "trailing comma"
  | .trailingCharacters => "trailing characters"
  | .numberOutOfRange => "number out of range"
  | .tooDeep => "recursion limit exceeded"

/-- A number as it is written: its sign, its first digits as a number below
`2 ^ 64`, the exponent of ten that belongs to the last of these, and whether it is
all of the number, without fraction or exponent. -/
structure NumberText where
  negative : Bool
  digits : Nat
  exponent : Int
  whole : Bool
  deriving DecidableEq, Repr

/-- A fault and what remained of the text where it was met.  Most faults are met
at a character that is the first one to be wrong; some behind all that is
wrong. -/
structure Failure where
  fault : Fault
  rest : List Char
  isBehind : Bool := false
  deriving DecidableEq, Repr

/-- The characters that may stand between the parts of a JSON text. -/
def isGap (c : Char) : Bool := c == ' ' || c == '\n' || c == '\t' || c == '\r'

/-- A text without the gap at its start. -/
def skipGap (s : List Char) : List Char := s.dropWhile isGap

/-- The value of a hexadecimal digit. -/
def hexValue? (c : Char) : Option Nat :=
  if '0' ≤ c && c ≤ '9' then some (c.toNat - 0x30)
  else if 'a' ≤ c && c ≤ 'f' then some (c.toNat - 0x57)
  else if 'A' ≤ c && c ≤ 'F' then some (c.toNat - 0x37)
  else none

/-- The value of four hexadecimal digits. -/
def hexFour : List Char → Except Failure (Nat × List Char)
  | a :: b :: c :: d :: rest =>
    match hexValue? a, hexValue? b, hexValue? c, hexValue? d with
    | some a, some b, some c, some d => .ok (((a * 16 + b) * 16 + c) * 16 + d, rest)
    | _, _, _, _ => .error ⟨.invalidEscape, rest, true⟩
  | _ => .error ⟨.endInString, [], true⟩

/-- The second half of a character of which the first half was escaped. -/
def lowSurrogate : List Char → Except Failure (Nat × List Char)
  | [] => .error ⟨.endInString, [], true⟩
  | '\\' :: 'u' :: rest => do
    let (low, rest) ← hexFour rest
    if 0xDC00 ≤ low ∧ low ≤ 0xDFFF then pure (low - 0xDC00, rest)
    else throw ⟨.loneSurrogate, rest, true⟩
  | '\\' :: [] => .error ⟨.endInString, [], true⟩
  | '\\' :: rest => .error ⟨.endOfHexEscape, rest, false⟩
  | rest => .error ⟨.endOfHexEscape, rest, false⟩

/-- The character of an escape, without its backslash. -/
def escapedChar : List Char → Except Failure (Char × List Char)
  | [] => .error ⟨.endInString, [], true⟩
  | c :: rest =>
    if c = '"' || c = '\\' || c = '/' then .ok (c, rest)
    else if c = 'b' then .ok ('\x08', rest)
    else if c = 'f' then .ok ('\x0c', rest)
    else if c = 'n' then .ok ('\n', rest)
    else if c = 'r' then .ok ('\r', rest)
    else if c = 't' then .ok ('\t', rest)
    else if c = 'u' then do
      let (high, rest) ← hexFour rest
      if 0xDC00 ≤ high ∧ high ≤ 0xDFFF then throw ⟨.loneSurrogate, rest, true⟩
      else if 0xD800 ≤ high ∧ high ≤ 0xDBFF then
        let (low, rest) ← lowSurrogate rest
        pure (Char.ofNat (0x10000 + (high - 0xD800) * 0x400 + low), rest)
      else pure (Char.ofNat high, rest)
    else .error ⟨.invalidEscape, c :: rest, false⟩

/-- The characters up to the closing quotation mark, in reverse order behind
those already read.  The fuel is more than the length of the text. -/
def stringBody : Nat → List Char → List Char → Except Failure (String × List Char)
  | 0, _, rest => .error ⟨.endInString, rest, true⟩
  | _ + 1, _, [] => .error ⟨.endInString, [], true⟩
  | fuel + 1, done, c :: rest =>
    if c = '"' then .ok (String.ofList done.reverse, rest)
    else if c = '\\' then do
      let (e, rest) ← escapedChar rest
      stringBody fuel (e :: done) rest
    else if c.toNat < 0x20 then .error ⟨.controlCharacter, c :: rest, false⟩
    else stringBody fuel (c :: done) rest

/-- A string, without the quotation mark at its start. -/
def stringOf (s : List Char) : Except Failure (String × List Char) :=
  stringBody (s.length + 1) [] s

/-- Digits where there has to be one, and what follows them. -/
def someDigits (s : List Char) : Except Failure (List Char × List Char) :=
  match s.takeWhile Char.isDigit, s.dropWhile Char.isDigit with
  | [], [] => .error ⟨.endInValue, [], true⟩
  | [], rest => .error ⟨.invalidNumber, rest, false⟩
  | digits, rest => .ok (digits, rest)

/-- A number continued by digits as long as it stays below `2 ^ 64`, and the digits
left over. -/
def continued (n : Nat) : List Char → Nat × List Char
  | [] => (n, [])
  | c :: rest =>
    let next := n * 10 + (c.toNat - 0x30)
    if next < Nat.pow 2 64 then continued next rest else (n, c :: rest)

/-- The exponent behind the letter E. -/
def exponentOf (s : List Char) : Except Failure (Int × List Char) := do
  let (sign, s) := match s with
    | '+' :: rest => ((1 : Int), rest)
    | '-' :: rest => (-1, rest)
    | _ => (1, s)
  let (digits, rest) ← someDigits s
  pure (sign * digits.foldl (fun n c => n * 10 + (c.toNat - 0x30 : Nat)) 0, rest)

/-- A number without its sign.  Digits of the whole part that do not fit raise the
exponent; such digits behind the point count for nothing. -/
def numberOf (negative : Bool) (s : List Char) : Except Failure (NumberText × List Char) := do
  let (whole, rest) ← someDigits s
  if 1 < whole.length ∧ whole.head? = some '0' then throw ⟨.invalidNumber, s.drop 1, false⟩
  let (first, left) := continued 0 whole
  let (digits, raised, isFraction, rest) ←
    match rest with
    | '.' :: rest => do
      let (places, rest) ← someDigits rest
      let (digits, dropped) := continued first places
      pure (digits, (left.length + dropped.length : Int) - places.length, true, rest)
    | _ => pure (first, (left.length : Int), false, rest)
  match rest with
  | 'e' :: rest | 'E' :: rest =>
    let (e, rest) ← exponentOf rest
    pure (⟨negative, digits, e + raised, false⟩, rest)
  | _ => pure (⟨negative, digits, raised, !isFraction && left.isEmpty⟩, rest)

/-- The value of a number.  A whole number that fits neither an unsigned nor a
signed 64-bit word, and minus zero, is a double: its first digits are rounded to
one, which is then scaled. -/
def NumberText.value? (n : NumberText) : Option Value :=
  if n.whole ∧ n.negative = false then some (.int n.digits)
  else if n.whole ∧ 0 < n.digits ∧ n.digits ≤ Nat.pow 2 63 then some (.int (-n.digits))
  else do
    let x ← Number.Binary64.nearest n.negative n.digits 1
    pure (.float (← x.scale n.exponent))

/-- The value of a number that begins with a digit or a minus sign. -/
def numberValue (s : List Char) : Except Failure (Value × List Char) := do
  let (n, rest) ← match s with
    | '-' :: rest => numberOf true rest
    | s => numberOf false s
  match n.value? with
  | some v => pure (v, rest)
  | none => throw ⟨.numberOutOfRange, rest, true⟩

/-- What follows a word, given what follows its first letter. -/
def wordRest (word : List Char) (s : List Char) : Except Failure (List Char) :=
  match word, s with
  | [], s => .ok s
  | _ :: _, [] => .error ⟨.endInValue, [], true⟩
  | w :: ws, c :: rest =>
    if w = c then wordRest ws rest else .error ⟨.expectedWord, c :: rest, false⟩

/-- What follows the colon behind a name. -/
def afterColon (s : List Char) : Except Failure (List Char) :=
  match skipGap s with
  | [] => .error ⟨.endInObject, [], true⟩
  | ':' :: rest => .ok rest
  | rest => .error ⟨.expectedColon, rest, false⟩

/-- Where the next item of an array begins, if there is one, or what follows the
array. -/
def nextItem (isFirst : Bool) (s : List Char) : Except Failure (Bool × List Char) :=
  match skipGap s with
  | [] => .error ⟨.endInArray, [], true⟩
  | ']' :: rest => .ok (false, rest)
  | ',' :: rest =>
    if isFirst then .ok (true, ',' :: rest)
    else
      match skipGap rest with
      | [] => .error ⟨.endInValue, [], true⟩
      | ']' :: rest => .error ⟨.trailingComma, ']' :: rest, false⟩
      | rest => .ok (true, rest)
  | rest => if isFirst then .ok (true, rest) else .error ⟨.expectedCommaOrBracket, rest, false⟩

/-- What follows the quotation mark in front of the next name of an object, if
there is one, or what follows the object. -/
def nextName (isFirst : Bool) (s : List Char) : Except Failure (Bool × List Char) :=
  match skipGap s with
  | [] => .error ⟨.endInObject, [], true⟩
  | '\x7d' :: rest => .ok (false, rest)
  | '"' :: rest =>
    if isFirst then .ok (true, rest) else .error ⟨.expectedCommaOrBrace, '"' :: rest, false⟩
  | ',' :: rest =>
    if isFirst then .error ⟨.nameNotString, ',' :: rest, false⟩
    else
      match skipGap rest with
      | [] => .error ⟨.endInValue, [], true⟩
      | '"' :: rest => .ok (true, rest)
      | '\x7d' :: rest => .error ⟨.trailingComma, '\x7d' :: rest, false⟩
      | rest => .error ⟨.nameNotString, rest, false⟩
  | rest =>
    .error ⟨if isFirst then .nameNotString else .expectedCommaOrBrace, rest, false⟩

/-- The most arrays and objects within each other. -/
def depthLimit : Nat := 127

mutual

/-- Reads one value.  The fuel bounds the values, items and members on the way
to any place in the text, so twice the text's length is enough; the depth is what
is left of `depthLimit`. -/
def readValue : Nat → Nat → List Char → Except Failure (Value × List Char)
  | 0, _, s => .error ⟨.endInValue, s, true⟩
  | fuel + 1, depth, s =>
    match skipGap s with
    | [] => .error ⟨.endInValue, [], true⟩
    | 'n' :: rest => do pure (.null, ← wordRest ['u', 'l', 'l'] rest)
    | 't' :: rest => do pure (.bool true, ← wordRest ['r', 'u', 'e'] rest)
    | 'f' :: rest => do pure (.bool false, ← wordRest ['a', 'l', 's', 'e'] rest)
    | '"' :: rest => do
      let (text, rest) ← stringOf rest
      pure (.string text, rest)
    | '[' :: rest =>
      if depth = 0 then .error ⟨.tooDeep, '[' :: rest, false⟩
      else do
        let (items, rest) ← readItems fuel (depth - 1) true rest
        pure (.array items, rest)
    | '\x7b' :: rest =>
      if depth = 0 then .error ⟨.tooDeep, '\x7b' :: rest, false⟩
      else do
        let (members, rest) ← readMembers fuel (depth - 1) true rest
        pure (.ofMembers members, rest)
    | c :: rest =>
      if c.isDigit || c = '-' then numberValue (c :: rest)
      else .error ⟨.expectedValue, c :: rest, false⟩

/-- Reads the items of an array up to its bracket. -/
def readItems : Nat → Nat → Bool → List Char → Except Failure (List Value × List Char)
  | 0, _, _, s => .error ⟨.endInArray, s, true⟩
  | fuel + 1, depth, isFirst, s => do
    let (isItem, rest) ← nextItem isFirst s
    if isItem then
      let (item, rest) ← readValue fuel depth rest
      let (items, rest) ← readItems fuel depth false rest
      pure (item :: items, rest)
    else pure ([], rest)

/-- Reads the members of an object up to its brace. -/
def readMembers :
    Nat → Nat → Bool → List Char → Except Failure (List (String × Value) × List Char)
  | 0, _, _, s => .error ⟨.endInObject, s, true⟩
  | fuel + 1, depth, isFirst, s => do
    let (isMember, rest) ← nextName isFirst s
    if isMember then
      let (name, rest) ← stringOf rest
      let (value, rest) ← readValue fuel depth (← afterColon rest)
      let (members, rest) ← readMembers fuel depth false rest
      pure ((name, value) :: members, rest)
    else pure ([], rest)

end

/-- Refuses a text of which more than a gap is left. -/
def expectEnd (s : List Char) : Except Failure Unit :=
  match skipGap s with
  | [] => .ok ()
  | rest => .error ⟨.trailingCharacters, rest, false⟩

/-- The value that a text stands for. -/
def Value.read (text : String) : Except Failure Value := do
  let s := text.toList
  let (value, rest) ← readValue (2 * s.length + 2) depthLimit s
  expectEnd rest
  pure value

/-- The value that a text stands for, if it is JSON. -/
def Value.read? (text : String) : Option Value := (Value.read text).toOption

/-- A place in a text in words: the line from one, and the bytes of it up to the
place, the character there included unless the place is behind it. -/
def placeText (text : String) (rest : List Char) (isBehind : Bool) : String :=
  let chars := text.toList
  let before := chars.take (chars.length - rest.length)
  let met := if isBehind then none else rest.head?
  let before := if met = some '\n' then before ++ ['\n'] else before
  let one := if met.isSome && met ≠ some '\n' then 1 else 0
  let line := before.countP (· == '\n')
  let column := (String.ofList (before.reverse.takeWhile (· != '\n'))).utf8ByteSize + one
  "line " ++ toString (line + 1) ++ " column " ++ toString column

/-- A failure in words. -/
def Failure.message (f : Failure) (text : String) : String :=
  f.fault.message ++ " at " ++ placeText text f.rest f.isBehind

end BrowserSuite.Json
