import BrowserSuite.Config.Source
import BrowserSuite.Json.Printer
import BrowserSuite.Json.Skipping

/-!
# Configurations in JSON

A group is an object, or an array of its settings in their order.  A number has
to be a whole one, and nothing takes the place of a text but a text.

The text is read once from its start to its end, so of two errors the one that
comes first in the text is reported.
-/

namespace BrowserSuite.Config

open Json

/-- Why a text is no configuration, and where: what remained of it there. -/
structure Refusal where
  problem : String
  rest : List Char
  isBehind : Bool
  deriving DecidableEq, Repr

/-- The refusal of a text that is no JSON. -/
def Refusal.ofFailure (f : Failure) : Refusal := ⟨f.fault.message, f.rest, f.isBehind⟩

/-- Reads from what remains of a text. -/
abbrev JsonReading := StateT (List Char) (Except Refusal)

namespace JsonReading

/-- Does a step of reading JSON. -/
def step {α : Type} (read : List Char → Except Failure (α × List Char)) : JsonReading α :=
  fun s => (read s).mapError Refusal.ofFailure

/-- Goes past a gap to the first character of a value. -/
def firstChar : JsonReading Char :=
  step fun s =>
    match skipGap s with
    | [] => .error ⟨.endInValue, [], true⟩
    | c :: rest => .ok (c, c :: rest)

/-- Refuses what was read up to here. -/
def refuse {α : Type} (problem : String) : JsonReading α := fun s => .error ⟨problem, s, true⟩

/-- Refuses a value that is something else than expected.  A value that is no
group is read first, as only then it is known. -/
def mismatch {α : Type} (expected : String) : JsonReading α := do
  let c ← firstChar
  if c = '[' ∨ c = '\x7b' then
    refuse (s!"invalid type: " ++ (if c = '[' then "sequence" else "map") ++ ", expected " ++
      expected)
  let v ← step (readValue 1 depthLimit)
  let kind := match v with
    | .bool b => "boolean \x60" ++ toString b ++ "\x60"
    | .int n => "integer \x60" ++ toString n ++ "\x60"
    | .float x => "floating point \x60" ++ x.render ++ "\x60"
    | .string t => "string " ++ String.ofList (quote t.toList)
    | _ => "null"
  refuse ("invalid type: " ++ kind ++ ", expected " ++ expected)

/-- A whole number of 64 bits. -/
def natural (expected : String) : JsonReading Nat := do
  let c ← firstChar
  if c.isDigit || c = '-' then
    let start ← get
    match ← step numberValue with
    | .int (.ofNat n) => pure n
    | .int n =>
      refuse ("invalid value: integer \x60" ++ toString n ++ "\x60, expected " ++ expected)
    | _ => do
      set start
      mismatch expected
  else mismatch expected

/-- A text. -/
def text : JsonReading String := do
  if (← firstChar) = '"' then
    modify (·.drop 1)
    step stringOf
  else mismatch "a string"

/-- A truth value. -/
def truth : JsonReading Bool := do
  match ← firstChar with
  | 't' | 'f' =>
    match ← step (readValue 1 depthLimit) with
    | .bool b => pure b
    | _ => mismatch "a boolean"
  | _ => mismatch "a boolean"

variable {S : Type}

/-- Reads the members of an object, without the brace at its start, given the
names of those that have been met.  The fuel is more than their number. -/
def members (names : List String) (member : S → String → JsonReading S) :
    Nat → List String → S → JsonReading S
  | 0, _, found => pure found
  | fuel + 1, met, found => do
    if ← step (nextName met.isEmpty) then
      let name ← step stringOf
      if !names.contains name then
        step fun s => return ((), ← skipValue (2 * s.length + 2) (← afterColon s))
        members names member fuel (name :: met) found
      else if met.contains name then
        -- the object is looked into for its end before it is refused
        modify fun s => match skipGap s with
          | '\x7d' :: rest => rest
          | rest => rest
        refuse ("duplicate field \x60" ++ name ++ "\x60")
      else
        step fun s => return ((), ← afterColon s)
        members names member fuel (name :: met) (← member found name)
    else pure found

/-- Reads the items of an array, without the bracket at its start, as the settings
with some names. -/
def items (member : S → String → JsonReading S) : Bool → List String → S → JsonReading S
  | _, [], found => do
    step fun s =>
      match skipGap s with
      | [] => .error ⟨.endInArray, [], true⟩
      | ']' :: rest => .ok ((), rest)
      | ',' :: rest =>
        match skipGap rest with
        | ']' :: rest => .error ⟨.trailingComma, ']' :: rest, false⟩
        | rest => .error ⟨.trailingCharacters, rest, false⟩
      | rest => .error ⟨.trailingCharacters, rest, false⟩
    pure found
  | isFirst, name :: names, found => do
    if ← step (nextItem isFirst) then items member false names (← member found name)
    else pure found

/-- Reads a group of settings. -/
def group (expected : String) (names : List String) (initial : S)
    (member : S → String → JsonReading S) : JsonReading S := do
  match ← firstChar with
  | '\x7b' =>
    modify (·.drop 1)
    members names member ((← get).length + 1) [] initial
  | '[' =>
    modify (·.drop 1)
    items member true names initial
  | _ => mismatch expected

end JsonReading

/-- How the values of a JSON text are read. -/
def jsonSource : Source JsonReading where
  natural _ expected := JsonReading.natural expected
  text _ := JsonReading.text
  truth _ := JsonReading.truth
  group _ expected names initial member := JsonReading.group expected names initial member

/-- The configuration that a JSON text stands for. -/
def ofJson (text : String) : Except String Config :=
  let reading := do
    let config ← ofSource jsonSource
    JsonReading.step fun s => return ((), (← expectEnd s, s).2)
    pure config
  match reading.run' text.toList with
  | .ok config => .ok config
  | .error r => .error (r.problem ++ " at " ++ placeText text r.rest r.isBehind)

end BrowserSuite.Config
