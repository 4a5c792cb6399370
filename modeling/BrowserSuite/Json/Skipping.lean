import BrowserSuite.Json.Reader

/-!
# Passing over JSON

What nobody asks for has to be JSON too, but no value is made of it: its numbers
may be of any size, its escapes need not stand for characters, and it may be
nested to any depth.
-/

namespace BrowserSuite.Json

/-- What follows an escape, without its backslash. -/
def skipEscape : List Char → Except Failure (List Char)
  | [] => .error ⟨.endInString, [], true⟩
  | c :: rest =>
    if ['"', '\\', '/', 'b', 'f', 'n', 'r', 't'].contains c then .ok rest
    else if c = 'u' then do
      let (_, rest) ← hexFour rest
      pure rest
    else .error ⟨.invalidEscape, c :: rest, false⟩

/-- What follows a string, without the quotation mark at its start.  The fuel is
more than the length of the text. -/
def skipString : Nat → List Char → Except Failure (List Char)
  | 0, rest => .error ⟨.endInString, rest, true⟩
  | _ + 1, [] => .error ⟨.endInString, [], true⟩
  | fuel + 1, c :: rest =>
    if c = '"' then .ok rest
    else if c = '\\' then do skipString fuel (← skipEscape rest)
    else if c.toNat < 0x20 then .error ⟨.controlCharacter, c :: rest, false⟩
    else skipString fuel rest

/-- What follows a number that begins with a digit or a minus sign. -/
def skipNumber (s : List Char) : Except Failure (List Char) :=
  let found := match s with
    | '-' :: rest => numberOf true rest
    | s => numberOf false s
  match found with
  | .ok (_, rest) => .ok rest
  | .error f => .error { f with fault := .invalidNumber }

mutual

/-- What follows a value.  The fuel is as for reading one. -/
def skipValue : Nat → List Char → Except Failure (List Char)
  | 0, s => .error ⟨.endInValue, s, true⟩
  | fuel + 1, s =>
    match skipGap s with
    | [] => .error ⟨.endInValue, [], true⟩
    | 'n' :: rest => wordRest ['u', 'l', 'l'] rest
    | 't' :: rest => wordRest ['r', 'u', 'e'] rest
    | 'f' :: rest => wordRest ['a', 'l', 's', 'e'] rest
    | '"' :: rest => skipString (rest.length + 1) rest
    | '[' :: rest => skipItems fuel true rest
    | '\x7b' :: rest => skipMembers fuel true rest
    | c :: rest =>
      if c.isDigit || c = '-' then skipNumber (c :: rest)
      else .error ⟨.expectedValue, c :: rest, false⟩

/-- What follows the items of an array and its bracket. -/
def skipItems : Nat → Bool → List Char → Except Failure (List Char)
  | 0, _, s => .error ⟨.endInArray, s, true⟩
  | fuel + 1, isFirst, s =>
    match skipGap s with
    | [] => .error ⟨.endInArray, [], true⟩
    | ']' :: rest => .ok rest
    | c :: rest =>
      if isFirst then do skipItems fuel false (← skipValue fuel (c :: rest))
      else if c = ',' then do skipItems fuel false (← skipValue fuel rest)
      else .error ⟨.expectedCommaOrBracket, c :: rest, false⟩

/-- What follows the members of an object and its brace. -/
def skipMembers : Nat → Bool → List Char → Except Failure (List Char)
  | 0, _, s => .error ⟨.endInObject, s, true⟩
  | fuel + 1, isFirst, s =>
    match skipGap s with
    | [] => .error ⟨.endInObject, [], true⟩
    | '\x7d' :: rest => .ok rest
    | c :: rest =>
      if isFirst || c = ',' then
        match skipGap (if isFirst then c :: rest else rest) with
        | [] => .error ⟨.endInObject, [], true⟩
        | '"' :: rest => do
          let rest ← afterColon (← skipString (rest.length + 1) rest)
          skipMembers fuel false (← skipValue fuel rest)
        | rest => .error ⟨.nameNotString, rest, false⟩
      else .error ⟨.expectedCommaOrBrace, c :: rest, false⟩

end

end BrowserSuite.Json
