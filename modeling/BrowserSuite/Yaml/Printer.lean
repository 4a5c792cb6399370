import BrowserSuite.Yaml.Cursor
import BrowserSuite.Yaml.Meaning

/-!
# Written texts

How a text is written as a value of a block mapping: plainly where that is
possible and clear, between apostrophes where it is not, as a block where it
has several lines, and between quotation marks with escapes where nothing else
will do.
-/

namespace BrowserSuite.Yaml

/-- Whether a character can stand for itself. -/
def isPrintable (c : Char) : Bool :=
  let n := c.toNat
  n == 0x0A || (0x20 ≤ n && n ≤ 0x7E) || (0xA0 ≤ n && n ≤ 0xFFFD && n ≠ 0xFEFF) || 0x10000 ≤ n

/-- Whether a plain text may not begin with a character. -/
def isOpeningMark (c : Char) : Bool :=
  ['#', ',', '[', ']', '\x7b', '\x7d', '&', '*', '!', '|', '>', '\'', '"', '%', '@',
    '\x60'].contains c

/-- Whether something in a text that follows `before` would end a plain text or
be taken for a comment. -/
def hasInnerMark (before : Char) : List Char → Bool
  | [] => false
  | c :: rest =>
    (c == ':' && isWordEnd (rest.headD endOfText)) || (c == '#' && isWordEnd before) ||
      hasInnerMark c rest

/-- Whether a text would be read as something else if it stood plainly. -/
def hasMark : List Char → Bool
  | [] => false
  | c :: rest =>
    isOpeningMark c || ((c == '?' || c == ':' || c == '-') && isWordEnd (rest.headD endOfText)) ||
      ['-', '-', '-'].isPrefixOf (c :: rest) || ['.', '.', '.'].isPrefixOf (c :: rest) ||
      hasInnerMark c rest

/-- Whether two neighbours of a text are as two tests say. -/
def hasNeighbours (first second : Char → Bool) : List Char → Bool
  | a :: b :: rest => (first a && second b) || hasNeighbours first second (b :: rest)
  | _ => false

/-- What the choice of a written form depends on. -/
structure Shape where
  unprintable : Bool
  broken : Bool
  spaceBeforeBreak : Bool
  spaceAfterBreak : Bool
  edgeBlank : Bool
  trailingSpace : Bool
  marked : Bool

/-- The shape of a text. -/
def shapeOf (s : List Char) : Shape :=
  let isSpace := fun c : Char => c == ' '
  let isEdge := fun c : Char => isSpace c || isBreak c
  { unprintable := s.any (!isPrintable ·)
    broken := s.any isBreak
    spaceBeforeBreak := hasNeighbours isSpace isBreak s
    spaceAfterBreak := hasNeighbours isBreak isSpace s
    edgeBlank := s.head?.any isEdge || s.getLast?.any isEdge
    trailingSpace := s.getLast?.any isSpace
    marked := hasMark s }

/-- A number in upper-case hexadecimal digits, with zeros in front up to a
width. -/
def hexText (width n : Nat) : List Char :=
  let digits := (Nat.toDigits 16 n).map Char.toUpper
  List.replicate (width - digits.length) '0' ++ digits

/-- A character as it stands between quotation marks. -/
def escaped (c : Char) : List Char :=
  if isPrintable c && !isBreak c && c != '"' && c != '\\' then [c]
  else
    let short := [('\x00', '0'), ('\x07', 'a'), ('\x08', 'b'), ('\t', 't'), ('\n', 'n'),
      ('\x0b', 'v'), ('\x0c', 'f'), ('\r', 'r'), ('\x1b', 'e'), ('"', '"'), ('\\', '\\'),
      ('\x85', 'N'), ('\xa0', '_'), ('\u2028', 'L'), ('\u2029', 'P')]
    let n := c.toNat
    '\\' :: match short.lookup c with
      | some letter => [letter]
      | none =>
        if n ≤ 0xFF then 'x' :: hexText 2 n
        else if n ≤ 0xFFFF then 'u' :: hexText 4 n
        else 'U' :: hexText 8 n

/-- A text between quotation marks. -/
def doubleQuoted (s : List Char) : List Char := '"' :: s.flatMap escaped ++ ['"']

/-- The characters of a text between apostrophes.  What follows a line break is
indented. -/
def singleQuotedBody (indent : Nat) (afterBreak : Bool) : List Char → List Char
  | [] => if afterBreak then List.replicate indent ' ' else []
  | c :: rest =>
    if isBreak c then c :: singleQuotedBody indent true rest
    else
      (if afterBreak then List.replicate indent ' ' else []) ++
        (if c = '\'' then ['\'', '\''] else [c]) ++ singleQuotedBody indent false rest

/-- A text between apostrophes. -/
def singleQuoted (indent : Nat) (s : List Char) : List Char :=
  '\'' :: singleQuotedBody indent false s ++ ['\'']

/-- The lines of a block, each indented; an empty one is not. -/
def blockBody (indent : Nat) (atStart : Bool) : List Char → List Char
  | [] => []
  | c :: rest =>
    if isBreak c then c :: blockBody indent true rest
    else (if atStart then List.replicate indent ' ' else []) ++ c :: blockBody indent false rest

/-- What a block says about its first and its last line breaks. -/
def blockHead (s : List Char) : List Char :=
  let hint := if s.head?.any fun c => c == ' ' || isBreak c then ['2'] else []
  let chomping := match s.reverse with
    | c :: d :: _ => if !isBreak c then ['-'] else if isBreak d then ['+'] else []
    | [c] => if isBreak c then ['+'] else ['-']
    | [] => ['-']
  '|' :: hint ++ chomping

/-- A text as a block.  Its last line is ended by whatever follows. -/
def block (indent : Nat) (s : List Char) : List Char :=
  let body := blockBody indent true s
  blockHead s ++ '\n' :: (if s.getLast? = some '\n' then body.dropLast else body)

/-- A text as it is written for a value whose own lines are indented by
`indent`. -/
def written (indent : Nat) (text : String) : String :=
  let s := text.toList
  let shape := shapeOf s
  let singleAllowed := !(shape.spaceAfterBreak || shape.spaceBeforeBreak || shape.unprintable)
  let blockAllowed := !(shape.trailingSpace || shape.spaceBeforeBreak || shape.unprintable)
  let quoted := if singleAllowed then singleQuoted indent s else doubleQuoted s
  let plainAllowed := singleAllowed && !(shape.edgeBlank || shape.broken || shape.marked)
  String.ofList <|
    if s.contains '\n' then (if blockAllowed then block indent s else doubleQuoted s)
    else if meansOther text || isZeroPaddedText text then quoted
    else if plainAllowed then s
    else quoted

end BrowserSuite.Yaml
