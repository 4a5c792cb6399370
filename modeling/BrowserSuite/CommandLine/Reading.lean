import BrowserSuite.CommandLine.UsageError
import BrowserSuite.CommandLine.Word
import BrowserSuite.Number.Reading

/-!
# Reading a command line

The words are read one after the other.  A setting waits for its value, and the
value waits until something else is met: only then is the setting made, so that
an error about a later word can come before one about an earlier value.  A
command opens a level within the level where it stands, and settings are made
level by level, from the innermost outwards.
-/

namespace BrowserSuite.CommandLine

/-- What a word that follows a setting has to be like. -/
def Setting.fault? (s : Setting) (value : String) : Option UsageError :=
  match s.form with
  | .path => if value.isEmpty then some (.emptyPath s) else none
  | .number =>
    if (Number.unsigned? (Nat.pow 2 64) value).isNone then some (.notNumber s value) else none
  | .flag | .text => none

/-- What has been set at a level. -/
abbrev Given := List (Setting × String)

/-- How far a level has been read: what has been set, and what is still to be
set once its value is complete. -/
structure Reading where
  given : Given := []
  pending : Option (Setting × Option String) := none
  /-- Whether all words to come are plain. -/
  isPlain : Bool := false
  deriving DecidableEq, Repr

namespace Reading

/-- Makes a setting. -/
def record (r : Reading) (s : Setting) (value : String) : Except UsageError Reading :=
  if (r.given.lookup s).isSome then .error (.repeated s)
  else
    match s.fault? value with
    | some e => .error e
    | none => .ok { r with given := r.given ++ [(s, value)] }

/-- Makes the setting that is pending. -/
def settle (r : Reading) : Except UsageError Reading :=
  match r.pending with
  | none => .ok r
  | some (s, none) => .error (.noValue s)
  | some (s, some value) => { r with pending := none }.record s value

/-- Makes a setting after the one that is pending. -/
def assign (r : Reading) (s : Setting) (value : String) : Except UsageError Reading := do
  (← r.settle).record s value

/-- Makes the setting of a flag. -/
def raise (r : Reading) (s : Setting) : Except UsageError Reading := do
  let r ← r.settle
  match s with
  | .help => throw .helpWanted
  | .version => throw .versionWanted
  | s => r.record s ""

/-- Lets a setting wait for its value, or with its value. -/
def postpone (r : Reading) (s : Setting) (value : Option String) : Except UsageError Reading := do
  return { (← r.settle) with pending := some (s, value) }

/-- The setting that waits for its value. -/
def awaiting? (r : Reading) : Option Setting :=
  match r.pending with
  | some (s, none) => some s
  | _ => none

/-- Whether a setting is made or pending. -/
def mentions (r : Reading) (s : Setting) : Bool :=
  (r.given.lookup s).isSome || (r.pending.map (·.1)) == some s

/-- Reads a setting by its long name. -/
def long (l : Level) (r : Reading) (name : String) (value : Option String) :
    Except UsageError Reading :=
  match l.named? name with
  | none => .error (.unknownWord ("--" ++ name))
  | some s =>
    match s.form, value with
    | .flag, none => r.raise s
    | .flag, some _ => .error (.surplusValue s)
    | _, none => r.postpone s none
    | _, some value => r.assign s value

/-- Reads settings by their letters.  What follows the letter of a setting with a
value is that value; an equals sign in front of it does not count. -/
def letters (l : Level) : Reading → List Char → Except UsageError Reading
  | r, [] => .ok r
  | r, c :: rest =>
    match l.lettered? c with
    | none => .error (.unknownWord ("-" ++ String.singleton c))
    | some s =>
      match s.form, rest with
      | .flag, rest => do letters l (← r.raise s) rest
      | _, [] => r.postpone s none
      | _, '=' :: value => r.assign s (String.ofList value)
      | _, value => r.assign s (String.ofList value)

/-- Reads a plain word that is no value of a setting by name. -/
def plain (l : Level) (r : Reading) (word : String) : Except UsageError Reading :=
  match l.unnamed? with
  | some s => if r.mentions s then .error (.unknownWord word) else r.postpone s (some word)
  | none =>
    if l.commands.isEmpty || (r.isPlain && (l.command? word).isSome) then
      .error (.unknownWord word)
    else .error (.unknownCommand word)

/-- Reads a word that opens no level. -/
def word (l : Level) (r : Reading) (text : String) : Except UsageError Reading :=
  if r.isPlain then r.plain l text
  else
    match Word.ofText text with
    | .onlyPlainFollow => .ok { r with isPlain := true }
    | .long name value => r.long l name value
    | .letters cs => r.letters l cs
    | .plain =>
      match r.awaiting? with
      | some s => .ok { r with pending := some (s, some text) }
      | none => r.plain l text

/-- The level that a word opens: a command does so, unless a value is expected or
only plain words can follow. -/
def opens? (l : Level) (r : Reading) (word : String) : Option Level :=
  if r.isPlain || r.awaiting?.isSome then none else l.command? word

end Reading

/-- A place in a command line: the innermost level, and how far it and those
around it, from the inside outwards, have been read. -/
structure Position where
  level : Level
  reading : Reading
  around : List Reading
  deriving DecidableEq, Repr

/-- The answer to a call for help on a command within a level. -/
def helpOn : Level → List String → UsageError
  | _, [] => .helpWanted
  | l, word :: rest =>
    match l.command? word with
    | some c => helpOn c rest
    | none => .unknownCommand word

/-- Reads the words of a command line from a position on. -/
def Position.read : List String → Position → Except UsageError Position
  | [], p => .ok p
  | word :: rest, p =>
    match p.reading.opens? p.level word with
    | some .help => .error (helpOn p.level rest)
    | some c => Position.read rest ⟨c, {}, p.reading :: p.around⟩
    | none => do Position.read rest { p with reading := ← p.reading.word p.level word }

end BrowserSuite.CommandLine
