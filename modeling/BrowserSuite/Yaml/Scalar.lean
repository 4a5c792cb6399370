import BrowserSuite.Yaml.Cursor

/-!
# Scalars

The four ways in which a text is written.  A plain or quoted one may go over
several lines: one line break between two words counts as a space, and of more
than one the first does not count.  In a block every line stands for itself, or
is joined to the next in a folded block.
-/

namespace BrowserSuite.Yaml

/-- How a text is written. -/
inductive Style where
  | plain
  | singleQuoted
  | doubleQuoted
  | literal
  | folded
  deriving DecidableEq, Repr

/-! ## Gaps between words -/

/-- What stands between two words: spaces, or a line break and more of them. -/
structure Gap where
  spaces : List Char
  first : List Char
  more : List Char
  overLines : Bool

/-- No gap at all. -/
def Gap.none : Gap := ⟨[], [], [], false⟩

/-- What a gap counts as. -/
def Gap.text (g : Gap) : List Char :=
  if g.overLines then
    if g.first.head? = some '\n' then (if g.more.isEmpty then [' '] else g.more)
    else g.first ++ g.more
  else g.spaces

/-- The gap at the cursor, behind one read before.  A tab in the indentation is
refused where an indentation is required. -/
def readGap (required : Option (Nat × Mark)) : Nat → Gap → Cursor → Except Fault (Gap × Cursor)
  | 0, g, c => .ok (g, c)
  | fuel + 1, g, c =>
    let next := c.look 0
    if isGap next then
      if g.overLines then
        match required with
        | some (indent, start) =>
          if c.column < indent ∧ next = '\t' then
            .error ⟨"found a tab character that violates indentation", c.mark,
              some ("while scanning a plain scalar", start)⟩
          else readGap required fuel g c.skip
        | none => readGap required fuel g c.skip
      else readGap required fuel { g with spaces := g.spaces ++ [next] } c.skip
    else if isBreak next then
      let (b, c) := c.readBreak
      if g.overLines then readGap required fuel { g with more := g.more ++ b } c
      else readGap required fuel ⟨[], b, [], true⟩ c
    else .ok (g, c)

/-! ## Plain scalars -/

/-- Whether a character has a meaning of its own inside brackets and braces. -/
def isFlowMark (c : Char) : Bool := [',', '[', ']', '\x7b', '\x7d'].contains c

/-- The word at the cursor: up to a blank, to a colon that ends a key, or inside
brackets up to a mark. -/
def readWord (inFlow : Bool) (start : Mark) : Nat → Cursor → Except Fault (List Char × Cursor)
  | 0, c => .ok ([], c)
  | fuel + 1, c =>
    let next := c.look 0
    if isWordEnd next then .ok ([], c)
    else if inFlow ∧ next = ':' ∧ (isFlowMark (c.look 1) ∨ c.look 1 = '?') then
      .error ⟨"found unexpected ':'", c.mark, some ("while scanning a plain scalar", start)⟩
    else if (next = ':' ∧ isWordEnd (c.look 1)) ∨ (inFlow ∧ isFlowMark next) then .ok ([], c)
    else do
      let (word, rest) ← readWord inFlow start fuel c.skip
      pure (next :: word, rest)

/-- A plain scalar behind the words read so far: the text, whether a line break
follows it, and the cursor behind that. -/
def readPlain (inFlow : Bool) (indent : Nat) (start : Mark) :
    Nat → List Char → Gap → Cursor → Except Fault (List Char × Bool × Cursor)
  | 0, text, g, c => .ok (text, g.overLines, c)
  | fuel + 1, text, g, c =>
    if c.atDocumentMark ∨ c.look 0 = '#' then .ok (text, g.overLines, c)
    else do
      let (word, c) ← readWord inFlow start c.fuel c
      let (text, g) := if word.isEmpty then (text, g) else (text ++ g.text ++ word, Gap.none)
      if !(isGap (c.look 0) || isBreak (c.look 0)) then pure (text, g.overLines, c)
      else
        let (g, c) ← readGap (some (indent, start)) c.fuel g c
        if !inFlow && c.column < indent then pure (text, g.overLines, c)
        else readPlain inFlow indent start fuel text g c

/-! ## Quoted scalars -/

/-- The value of a hexadecimal digit. -/
def hexDigit? (c : Char) : Option Nat :=
  if '0' ≤ c ∧ c ≤ '9' then some (c.toNat - 0x30)
  else if 'a' ≤ c ∧ c ≤ 'f' then some (c.toNat - 0x57)
  else if 'A' ≤ c ∧ c ≤ 'F' then some (c.toNat - 0x37)
  else none

/-- The characters that a letter behind a backslash stands for. -/
def shortEscapes : List (Char × Char) :=
  [('0', '\x00'), ('a', '\x07'), ('b', '\x08'), ('t', '\t'), ('\t', '\t'), ('n', '\n'),
    ('v', '\x0b'), ('f', '\x0c'), ('r', '\r'), ('e', '\x1b'), (' ', ' '), ('"', '"'),
    ('/', '/'), ('\\', '\\'), ('N', '\x85'), ('_', '\xa0'), ('L', '\u2028'), ('P', '\u2029')]

/-- How many digits follow a letter behind a backslash. -/
def escapeLength? (letter : Char) : Option Nat :=
  [('x', 2), ('u', 4), ('U', 8)].lookup letter

/-- The character of the escape at the cursor, which is at its backslash. -/
def readEscape (start : Mark) (c : Cursor) : Except Fault (Char × Cursor) :=
  let fault := fun (problem : String) =>
    (⟨problem, c.mark, some ("while parsing a quoted scalar", start)⟩ : Fault)
  let letter := c.look 1
  match shortEscapes.lookup letter, escapeLength? letter with
  | some e, _ => .ok (e, (Cursor.skipMany 2 c))
  | none, some count =>
    let c := Cursor.skipMany 2 c
    let value := (c.rest.take count).foldlM (fun n d => (hexDigit? d).map (16 * n + ·)) 0
    match value with
    | some n =>
      if c.rest.length < count then .error (fault "did not find expected hexdecimal number")
      else if 0xD800 ≤ n ∧ n ≤ 0xDFFF ∨ 0x10FFFF < n then
        .error (fault "found invalid Unicode character escape code")
      else .ok (Char.ofNat n, Cursor.skipMany count c)
    | none => .error (fault "did not find expected hexdecimal number")
  | none, none => .error (fault "found unknown escape character")

/-- The characters of a quoted scalar up to a blank or the closing mark, and
whether an escaped line break follows. -/
def readQuotedWord (single : Bool) (start : Mark) :
    Nat → Cursor → Except Fault (List Char × Bool × Cursor)
  | 0, c => .ok ([], false, c)
  | fuel + 1, c =>
    let next := c.look 0
    if isWordEnd next then .ok ([], false, c)
    else if single ∧ next = '\'' ∧ c.look 1 = '\'' then do
      let (word, escaped, rest) ← readQuotedWord single start fuel (Cursor.skipMany 2 c)
      pure ('\'' :: word, escaped, rest)
    else if next = (if single then '\'' else '"') then .ok ([], false, c)
    else if !single ∧ next = '\\' ∧ isBreak (c.look 1) then .ok ([], true, c.skip.skipBreak)
    else if !single ∧ next = '\\' then do
      let (e, c) ← readEscape start c
      let (word, escaped, rest) ← readQuotedWord single start fuel c
      pure (e :: word, escaped, rest)
    else do
      let (word, escaped, rest) ← readQuotedWord single start fuel c.skip
      pure (next :: word, escaped, rest)

/-- The text of a quoted scalar behind the part read so far, and the cursor at
its closing mark. -/
def readQuoted (single : Bool) (start : Mark) :
    Nat → List Char → Cursor → Except Fault (List Char × Cursor)
  | 0, text, c => .ok (text, c)
  | fuel + 1, text, c =>
    let fault := fun (problem : String) =>
      (⟨problem, c.mark, some ("while scanning a quoted scalar", start)⟩ : Fault)
    if c.atDocumentMark then .error (fault "found unexpected document indicator")
    else if c.rest.isEmpty then .error (fault "found unexpected end of stream")
    else do
      let (word, escaped, c) ← readQuotedWord single start c.fuel c
      let text := text ++ word
      if c.look 0 = (if single then '\'' else '"') then pure (text, c)
      else
        let (g, c) ← readGap none c.fuel { Gap.none with overLines := escaped } c
        readQuoted single start fuel (text ++ g.text) c

/-! ## Blocks -/

/-- What becomes of the line breaks at the end of a block: all are dropped, one
is kept, or all are. -/
inductive Chomping where
  | strip
  | clip
  | keep
  deriving DecidableEq, Repr

/-- The chomping at the cursor. -/
def chomping? (c : Cursor) : Option Chomping :=
  if c.look 0 = '+' then some .keep else if c.look 0 = '-' then some .strip else none

/-- What stands behind the mark of a block: its chomping and its indentation,
in any order. -/
def readBlockHead (start : Mark) (c : Cursor) :
    Except Fault (Chomping × Option Nat × Cursor) := do
  let digit := fun (c : Cursor) =>
    if c.look 0 = '0' then
      .error (⟨"found an indentation indicator equal to 0", c.mark,
        some ("while scanning a block scalar", start)⟩ : Fault)
    else if (c.look 0).isDigit then .ok (some ((c.look 0).toNat - 0x30), c.skip)
    else .ok (none, c)
  match chomping? c with
  | some chomping =>
    let (indent, c) ← digit c.skip
    pure (chomping, indent, c)
  | none =>
    let (indent, c) ← digit c
    match indent, chomping? c with
    | some _, some chomping => pure (chomping, indent, c.skip)
    | _, _ => pure (.clip, indent, c)

/-- Whether the cursor is still in the indentation; without one it always is. -/
def isInside (indent : Option Nat) (c : Cursor) : Bool :=
  match indent with
  | some n => c.column < n
  | none => true

/-- Goes past the spaces of an indentation; without one, past all spaces. -/
def skipIndent (indent : Option Nat) : Nat → Cursor → Cursor
  | 0, c => c
  | fuel + 1, c =>
    if isInside indent c && c.look 0 == ' ' then skipIndent indent fuel c.skip else c

/-- The blank lines at the cursor: the deepest column reached, their line breaks
and the cursor behind the next line's indentation. -/
def readBlankLines (start : Mark) (indent : Option Nat) :
    Nat → Nat → List Char → Cursor → Except Fault (Nat × List Char × Cursor)
  | 0, deepest, breaks, c => .ok (deepest, breaks, c)
  | fuel + 1, deepest, breaks, c =>
    let c := skipIndent indent c.fuel c
    let deepest := max deepest c.column
    if isInside indent c && c.look 0 == '\t' then
      .error ⟨"found a tab character where an indentation space is expected", c.mark,
        some ("while scanning a block scalar", start)⟩
    else if isBreak (c.look 0) then
      let (b, c) := c.readBreak
      readBlankLines start indent fuel deepest (breaks ++ b) c
    else .ok (deepest, breaks, c)

/-- The lines of a block: the text read so far, the break that ended the last
line, the breaks of the blank lines behind it, and whether that line began with
a blank. -/
def readBlockLines (isFolded : Bool) (start : Mark) (indent : Nat) :
    Nat → List Char → List Char → List Char → Bool → Cursor →
      Except Fault (List Char × List Char × List Char × Cursor)
  | 0, text, last, blank, _, c => .ok (text, last, blank, c)
  | fuel + 1, text, last, blank, wasBlank, c =>
    if c.column = indent ∧ !c.rest.isEmpty then do
      let isBlank := isGap (c.look 0)
      let joins := isFolded ∧ last.head? = some '\n' ∧ !wasBlank ∧ !isBlank
      let between := if joins then (if blank.isEmpty then [' '] else blank) else last ++ blank
      let (line, c) := c.readWhile (!isLineEnd ·)
      let (last, c) := c.readBreak
      let (_, blank, c) ← readBlankLines start (some indent) c.fuel 0 [] c
      readBlockLines isFolded start indent fuel (text ++ between ++ line) last blank isBlank c
    else .ok (text, last, blank, c)

/-- A block scalar whose mark has been read.  `around` is the indentation of
what holds it, if anything does. -/
def readBlock (isFolded : Bool) (start : Mark) (around : Option Nat) (c : Cursor) :
    Except Fault (List Char × Cursor) := do
  let (chomping, given, c) ← readBlockHead start c
  let c := c.skipWhile isGap
  let c := if c.look 0 = '#' then c.skipWhile (!isLineEnd ·) else c
  if !isLineEnd (c.look 0) then
    throw ⟨"did not find expected comment or line break", c.mark,
      some ("while scanning a block scalar", start)⟩
  let c := c.skipBreak
  let given := given.map fun n => around.getD 0 + n
  let (deepest, blank, c) ← readBlankLines start given c.fuel 0 [] c
  let least := match around with
    | some n => n + 1
    | none => 1
  let indent := given.getD (max deepest least)
  let (text, last, blank, c) ← readBlockLines isFolded start indent c.fuel [] [] blank false c
  let tail := match chomping with
    | .strip => []
    | .clip => last
    | .keep => last ++ blank
  pure (text ++ tail, c)

end BrowserSuite.Yaml
