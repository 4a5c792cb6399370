import BrowserSuite.Yaml.Scalar

/-!
# Tokens

A YAML text as a list of tokens.  Indentation is made explicit: where a deeper
column begins a collection a token opens it, and where a line returns to a
lower column tokens close what was open.

A text in front of a colon is a key, but that shows only at the colon.  So the
places where a key may have begun are remembered, one for every level of
brackets, and the token that marks a key is put in front of the tokens already
read.
-/

namespace BrowserSuite.Yaml

/-- What a token is. -/
inductive TokenKind where
  | version (major minor : Nat)
  | tagHandle (handle tagPrefix : String)
  | documentStart
  | documentEnd
  | blockSequence
  | blockMapping
  | blockEnd
  | flowSequenceStart
  | flowSequenceEnd
  | flowMappingStart
  | flowMappingEnd
  | dash
  | comma
  | key
  | value
  | alias (name : String)
  | anchor (name : String)
  | tag (handle : String)
  | scalar (text : String) (style : Style)
  | textEnd
  deriving DecidableEq, Repr

/-- A token and the places where it begins and ends. -/
structure Token where
  kind : TokenKind
  start : Mark
  stop : Mark
  deriving DecidableEq, Repr

/-- A place where a key may have begun: the number of tokens before it, and
whether a key has to be there. -/
structure PossibleKey where
  tokensBefore : Nat
  isRequired : Bool
  mark : Mark
  deriving DecidableEq, Repr

/-- A text read in part.  `columns` holds the columns of the open block
collections, the innermost first; `keys` has an entry for the text and one for
every open bracket. -/
structure Scan where
  cursor : Cursor
  tokens : List Token
  columns : List Nat
  depth : Nat
  keyAllowed : Bool
  keys : List (Option PossibleKey)

namespace Scan

/-- The column of the innermost block collection. -/
def indent (s : Scan) : Option Nat := s.columns.head?

/-- The least column at which something belongs to the innermost collection. -/
def leastColumn (s : Scan) : Nat :=
  match s.indent with
  | some n => n + 1
  | none => 0

/-- Adds a token that ends at the cursor. -/
def push (s : Scan) (kind : TokenKind) (start : Mark) : Scan :=
  { s with tokens := s.tokens ++ [⟨kind, start, s.cursor.mark⟩] }

/-- Puts a token without a text behind some of the tokens. -/
def insert (s : Scan) (before : Nat) (kind : TokenKind) (mark : Mark) : Scan :=
  { s with tokens := s.tokens.take before ++ ⟨kind, mark, mark⟩ :: s.tokens.drop before }

/-- The fault of a place that does not admit what stands there. -/
def misplaced (s : Scan) (problem : String) : Fault := ⟨problem, s.cursor.mark, none⟩

/-- The fault of a key without a colon. -/
def missingColon (s : Scan) (k : PossibleKey) : Fault :=
  ⟨"could not find expected ':'", s.cursor.mark, some ("while scanning a simple key", k.mark)⟩

/-- Gives up the keys that may not go on here: a key is on one line and has at
most 1024 characters. -/
def dropStaleKeys (s : Scan) : Except Fault Scan := do
  let here := s.cursor.mark
  let keys ← s.keys.mapM fun
    | none => pure none
    | some k =>
      if k.mark.line < here.line ∨ k.mark.index + 1024 < here.index then
        if k.isRequired then throw (s.missingColon k) else pure none
      else pure (some k)
  pure { s with keys := keys }

/-- Gives up the key of the innermost level. -/
def dropKey (s : Scan) : Except Fault Scan :=
  match s.keys with
  | some k :: rest =>
    if k.isRequired then .error (s.missingColon k) else .ok { s with keys := none :: rest }
  | _ => .ok s

/-- Remembers that a key may begin here. -/
def saveKey (s : Scan) : Except Fault Scan := do
  if s.keyAllowed then
    let isRequired := s.depth == 0 && s.indent == some s.cursor.column
    let s ← s.dropKey
    pure { s with keys := some ⟨s.tokens.length, isRequired, s.cursor.mark⟩ :: s.keys.drop 1 }
  else pure s

/-- Closes the block collections to the right of a column. -/
def closeBlocks (s : Scan) (isInside : Nat → Bool) : Scan :=
  if s.depth ≠ 0 then s
  else
    let closing := s.columns.takeWhile isInside
    let here := s.cursor.mark
    { s with
      tokens := s.tokens ++ closing.map fun _ => ⟨.blockEnd, here, here⟩
      columns := s.columns.dropWhile isInside }

/-- Opens a block collection at a column to the right of the innermost one; its
token stands behind some of the tokens. -/
def openBlock (s : Scan) (column before : Nat) (kind : TokenKind) (mark : Mark) : Scan :=
  if s.depth = 0 ∧ s.leastColumn ≤ column then
    { s.insert before kind mark with columns := column :: s.columns }
  else s

/-! ## Between tokens -/

/-- Goes past blanks, comments and line breaks to the next token.  A new line
may begin a key.  A tab is no blank where a key may begin. -/
def skipToToken : Nat → Scan → Scan
  | 0, s => s
  | fuel + 1, s =>
    let c := s.cursor
    let c := if c.column == 0 && c.look 0 == '\ufeff' then c.skip else c
    let isBlank := fun ch : Char =>
      ch == ' ' || ((s.depth != 0 || !s.keyAllowed) && ch == '\t')
    let c := c.skipWhile isBlank
    let c := if c.look 0 = '#' then c.skipWhile (!isLineEnd ·) else c
    if isBreak (c.look 0) then
      skipToToken fuel { s with
        cursor := c.skipBreak
        keyAllowed := s.keyAllowed || s.depth == 0 }
    else { s with cursor := c }

/-! ## Tokens of one kind -/

/-- A token of some marks at the cursor. -/
def mark (s : Scan) (kind : TokenKind) (length : Nat) : Scan :=
  let start := s.cursor.mark
  { s with cursor := Cursor.skipMany length s.cursor }.push kind start

/-- Leaves all block collections. -/
def closeAll (s : Scan) : Except Fault Scan := do
  let s ← (s.closeBlocks fun _ => true).dropKey
  pure { s with keyAllowed := false }

/-- The end of the text, which is at the start of a line even if no line break
comes before it. -/
def readEnd (s : Scan) : Except Fault Scan := do
  let m := s.cursor.mark
  let m := if m.column = 0 then m else ⟨m.index, m.line + 1, 0⟩
  pure ((← { s with cursor := { s.cursor with mark := m } }.closeAll).mark .textEnd 0)

/-- A document's start or end. -/
def readDocumentMark (s : Scan) (kind : TokenKind) : Except Fault Scan := do
  pure ((← s.closeAll).mark kind 3)

/-- What opens brackets or braces. -/
def readFlowStart (s : Scan) (kind : TokenKind) : Except Fault Scan := do
  let s ← s.saveKey
  pure ({ s with keys := none :: s.keys, depth := s.depth + 1, keyAllowed := true }.mark kind 1)

/-- What closes brackets or braces. -/
def readFlowEnd (s : Scan) (kind : TokenKind) : Except Fault Scan := do
  let s ← s.dropKey
  let keys := if s.depth = 0 then s.keys else s.keys.drop 1
  pure ({ s with keys := keys, depth := s.depth - 1, keyAllowed := false }.mark kind 1)

/-- A comma in brackets or braces. -/
def readComma (s : Scan) : Except Fault Scan := do
  pure ({ (← s.dropKey) with keyAllowed := true }.mark .comma 1)

/-- The dash of an item. -/
def readDash (s : Scan) : Except Fault Scan := do
  if s.depth = 0 ∧ !s.keyAllowed then
    throw (s.misplaced "block sequence entries are not allowed in this context")
  let s := s.openBlock s.cursor.column s.tokens.length .blockSequence s.cursor.mark
  pure ({ (← s.dropKey) with keyAllowed := true }.mark .dash 1)

/-- The question mark of a key. -/
def readKey (s : Scan) : Except Fault Scan := do
  if s.depth = 0 ∧ !s.keyAllowed then
    throw (s.misplaced "mapping keys are not allowed in this context")
  let s := s.openBlock s.cursor.column s.tokens.length .blockMapping s.cursor.mark
  pure ({ (← s.dropKey) with keyAllowed := s.depth == 0 }.mark .key 1)

/-- The colon of a value.  Where a key may have begun, one did. -/
def readValue (s : Scan) : Except Fault Scan :=
  match s.keys with
  | some k :: rest =>
    let s := s.insert k.tokensBefore .key k.mark
    let s := s.openBlock k.mark.column k.tokensBefore .blockMapping k.mark
    .ok ({ s with keys := none :: rest, keyAllowed := false }.mark .value 1)
  | _ =>
    if s.depth = 0 ∧ !s.keyAllowed then
      .error (s.misplaced "mapping values are not allowed in this context")
    else
      let s := s.openBlock s.cursor.column s.tokens.length .blockMapping s.cursor.mark
      .ok ({ s with keyAllowed := s.depth == 0 }.mark .value 1)

/-- The name behind the mark of an anchor or an alias. -/
def readAnchor (s : Scan) (isAlias : Bool) : Except Fault Scan := do
  let s ← s.saveKey
  let start := s.cursor.mark
  let (name, c) := s.cursor.skip.readWhile isNameChar
  let next := c.look 0
  if name.isEmpty || !(isWordEnd next ||
      ['?', ':', ',', ']', '\x7d', '%', '@', '\x60'].contains next) then
    throw ⟨"did not find expected alphabetic or numeric character", c.mark,
      some (if isAlias then "while scanning an alias" else "while scanning an anchor", start)⟩
  let name := String.ofList name
  let kind := if isAlias then TokenKind.alias name else .anchor name
  pure ({ s with cursor := c, keyAllowed := false }.push kind start)

/-- Whether a character can be in an address without being encoded. -/
def isTagChar (c : Char) : Bool :=
  isNameChar c || [';', '/', '?', ':', '@', '&', '=', '+', '$', '.', '%', '!', '~', '*', '\'',
    '(', ')'].contains c

/-- A tag, of which only the handle matters: none for a whole address in angle
brackets. -/
def readTag (s : Scan) : Except Fault Scan := do
  let s ← s.saveKey
  let start := s.cursor.mark
  let fault := fun (c : Cursor) (problem : String) =>
    (⟨problem, c.mark, some ("while scanning a tag", start)⟩ : Fault)
  let isAddressChar := fun ch : Char => isTagChar ch || [',', '[', ']'].contains ch
  let (handle, c) ← if s.cursor.look 1 = '<' then do
      let (address, c) := (Cursor.skipMany 2 s.cursor).readWhile isAddressChar
      if address.isEmpty then throw (fault c "did not find expected tag URI")
      if c.look 0 ≠ '>' then throw (fault c "did not find the expected '>'")
      pure ("!", c.skip)
    else
      let (name, c) := s.cursor.skip.readWhile isNameChar
      if c.look 0 = '!' then
        let (suffix, c) := c.skip.readWhile isTagChar
        if suffix.isEmpty then throw (fault c "did not find expected tag URI")
        pure ("!" ++ String.ofList name ++ "!", c)
      else pure ("!", c.skipWhile isTagChar)
  if !(isWordEnd (c.look 0) || (s.depth != 0 && c.look 0 == ',')) then
    throw (fault c "did not find expected whitespace or line break")
  pure ({ s with cursor := c, keyAllowed := false }.push (.tag handle) start)

/-- A block scalar. -/
def readBlockScalar (s : Scan) (isFolded : Bool) : Except Fault Scan := do
  let s ← s.dropKey
  let start := s.cursor.mark
  let (text, c) ← readBlock isFolded start s.indent s.cursor.skip
  let kind := TokenKind.scalar (String.ofList text) (if isFolded then .folded else .literal)
  pure ({ s with cursor := c, keyAllowed := true }.push kind start)

/-- A quoted scalar. -/
def readQuotedScalar (s : Scan) (single : Bool) : Except Fault Scan := do
  let s ← s.saveKey
  let start := s.cursor.mark
  let c := s.cursor.skip
  let (text, c) ← readQuoted single start c.fuel [] c
  let style := if single then Style.singleQuoted else .doubleQuoted
  let kind := TokenKind.scalar (String.ofList text) style
  pure ({ s with cursor := c.skip, keyAllowed := false }.push kind start)

/-- A plain scalar. -/
def readPlainScalar (s : Scan) : Except Fault Scan := do
  let s ← s.saveKey
  let start := s.cursor.mark
  let (text, overLines, c) ←
    readPlain (s.depth != 0) s.leastColumn start s.cursor.fuel [] Gap.none s.cursor
  let kind := TokenKind.scalar (String.ofList text) .plain
  pure ({ s with cursor := c, keyAllowed := overLines }.push kind start)

/-! ## Directives -/

/-- A number of at most nine digits. -/
def readVersionNumber (start : Mark) (c : Cursor) : Except Fault (Nat × Cursor) :=
  let (digits, rest) := c.readWhile Char.isDigit
  let fault := fun (problem : String) =>
    (⟨problem, c.mark, some ("while scanning a %YAML directive", start)⟩ : Fault)
  if digits.isEmpty then .error (fault "did not find expected version number")
  else if 9 < digits.length then .error (fault "found extremely long version number")
  else .ok (digits.foldl (fun n d => 10 * n + (d.toNat - 0x30)) 0, rest)

/-- The version of a directive. -/
def readVersion (start : Mark) (c : Cursor) : Except Fault (TokenKind × Cursor) := do
  let (major, c) ← readVersionNumber start (c.skipWhile isGap)
  if c.look 0 ≠ '.' then
    throw ⟨"did not find expected digit or '.' character", c.mark,
      some ("while scanning a %YAML directive", start)⟩
  let (minor, c) ← readVersionNumber start c.skip
  pure (.version major minor, c)

/-- The tag handle of a directive and what it stands for. -/
def readTagHandle (start : Mark) (c : Cursor) : Except Fault (TokenKind × Cursor) := do
  let fault := fun (c : Cursor) (problem : String) =>
    (⟨problem, c.mark, some ("while scanning a %TAG directive", start)⟩ : Fault)
  let c := c.skipWhile isGap
  if c.look 0 ≠ '!' then throw (fault c "did not find expected '!'")
  let (name, c) := c.skip.readWhile isNameChar
  let (handle, c) ←
    if c.look 0 = '!' then pure ("!" ++ String.ofList name ++ "!", c.skip)
    else if name.isEmpty then pure ("!", c)
    else throw (fault c "did not find expected '!'")
  if !isGap (c.look 0) then throw (fault c "did not find expected whitespace")
  let (tagPrefix, c) := (c.skipWhile isGap).readWhile isTagChar
  if tagPrefix.isEmpty then throw (fault c "did not find expected tag URI")
  if !isWordEnd (c.look 0) then
    throw (fault c "did not find expected whitespace or line break")
  pure (.tagHandle handle (String.ofList tagPrefix), c)

/-- A directive. -/
def readDirective (s : Scan) : Except Fault Scan := do
  let s ← s.closeAll
  let start := s.cursor.mark
  let fault := fun (c : Cursor) (problem : String) =>
    (⟨problem, c.mark, some ("while scanning a directive", start)⟩ : Fault)
  let (name, c) := s.cursor.skip.readWhile isNameChar
  if name.isEmpty then throw (fault c "could not find expected directive name")
  if !isWordEnd (c.look 0) then throw (fault c "found unexpected non-alphabetical character")
  let (kind, c) ← match String.ofList name with
    | "YAML" => readVersion start c
    | "TAG" => readTagHandle start c
    | _ => throw (fault c "found unknown directive name")
  let s := { s with cursor := c }.push kind start
  let c := c.skipWhile isGap
  let c := if c.look 0 = '#' then c.skipWhile (!isLineEnd ·) else c
  if !isLineEnd (c.look 0) then
    throw (fault c "did not find expected comment or line break")
  pure { s with cursor := c.skipBreak }

/-! ## All tokens -/

/-- The marks that no plain scalar begins with. -/
def isIndicator (c : Char) : Bool :=
  ['-', '?', ':', ',', '[', ']', '\x7b', '\x7d', '#', '&', '*', '!', '|', '>', '\'', '"', '%',
    '@', '\x60'].contains c

/-- Whether a plain scalar begins at the cursor. -/
def atPlainScalar (s : Scan) : Bool :=
  let first := s.cursor.look 0
  let second := s.cursor.look 1
  !(isWordEnd first || isIndicator first) || (first == '-' && !isGap second) ||
    (s.depth == 0 && (first == '?' || first == ':') && !isWordEnd second)

/-- Reads the token that begins at the cursor. -/
def readToken (s : Scan) : Except Fault Scan :=
  let c := s.cursor
  let first := c.look 0
  let standsAlone := isWordEnd (c.look 1)
  if c.rest.isEmpty then s.readEnd
  else if c.column = 0 ∧ first = '%' then s.readDirective
  else if c.isDocumentMark '-' then s.readDocumentMark .documentStart
  else if c.isDocumentMark '.' then s.readDocumentMark .documentEnd
  else if first = '[' then s.readFlowStart .flowSequenceStart
  else if first = '\x7b' then s.readFlowStart .flowMappingStart
  else if first = ']' then s.readFlowEnd .flowSequenceEnd
  else if first = '\x7d' then s.readFlowEnd .flowMappingEnd
  else if first = ',' then s.readComma
  else if first = '-' ∧ standsAlone then s.readDash
  else if first = '?' ∧ (s.depth ≠ 0 ∨ standsAlone) then s.readKey
  else if first = ':' ∧ (s.depth ≠ 0 ∨ standsAlone) then s.readValue
  else if first = '*' then s.readAnchor true
  else if first = '&' then s.readAnchor false
  else if first = '!' then s.readTag
  else if first = '|' ∧ s.depth = 0 then s.readBlockScalar false
  else if first = '>' ∧ s.depth = 0 then s.readBlockScalar true
  else if first = '\'' then s.readQuotedScalar true
  else if first = '"' then s.readQuotedScalar false
  else if s.atPlainScalar then s.readPlainScalar
  else .error ⟨"found character that cannot start any token", c.mark,
    some ("while scanning for the next token", c.mark)⟩

/-- Goes to the next token. -/
def toToken (s : Scan) : Except Fault Scan := (skipToToken s.cursor.fuel s).dropStaleKeys

/-- Reads the next token. -/
def next (s : Scan) : Except Fault Scan := do
  let s ← s.toToken
  (s.closeBlocks fun column => s.cursor.column < column).readToken

/-- The tokens of which it is known what they are: those before the first that
may still turn out to begin a key. -/
def settled (s : Scan) : List Token :=
  let keys := match s.toToken with
    | .ok next => next.keys
    | .error _ => s.keys
  s.tokens.take (keys.foldl (fun n k => k.elim n fun k => min n k.tokensBefore) s.tokens.length)

/-- Reads all tokens; a fault ends them. -/
def readAll : Nat → Scan → List Token × Option Fault
  | 0, s => (s.tokens, none)
  | fuel + 1, s =>
    match s.next with
    | .error fault => (s.settled, some fault)
    | .ok s =>
      if s.tokens.getLast?.any (·.kind == .textEnd) then (s.tokens, none)
      else readAll fuel s

end Scan

/-- The fault of a character that no text may have, given what comes before it.
Its place is counted in bytes. -/
def Fault.forbidden (before : List Char) : Fault :=
  let bytes := (String.ofList before).utf8ByteSize
  let place := if bytes = 0 then "" else " at position " ++ toString bytes
  ⟨"control characters are not allowed" ++ place, Mark.start, none⟩

/-- The tokens of a text, and the fault at which they end, if one does. -/
def tokens (text : String) : List Token × Option Fault :=
  let all := text.toList
  let chars := match all with
    | '\ufeff' :: rest => rest
    | chars => chars
  if chars.all isAllowed then
    Scan.readAll (chars.length + 2) ⟨⟨chars, Mark.start⟩, [], [], 0, true, [none]⟩
  else
    let lead := all.take (all.length - chars.length)
    ([], some (.forbidden (lead ++ chars.takeWhile isAllowed)))

end BrowserSuite.Yaml
