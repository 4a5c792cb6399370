import BrowserSuite.Yaml.Token

/-!
# Nodes

A YAML document is a node: a text, a sequence of nodes or a mapping of nodes to
nodes.  An alias stands for the node that was given its name before.  What is
left out where a node could be is an empty plain text.

A document that is no YAML is read up to its fault: a broken node stands where
nothing more could be read.  Whoever goes through a document from its start
meets everything that comes before the fault.
-/

namespace BrowserSuite.Yaml

/-- A part of a document and the place where it begins. -/
inductive Node where
  | scalar (text : String) (style : Style) (mark : Mark)
  | sequence (items : List Node) (mark : Mark)
  | mapping (members : List (Node × Node)) (mark : Mark)
  | broken (fault : Fault)
  deriving Inhabited

/-- Where a node begins. -/
def Node.mark : Node → Mark
  | scalar _ _ m | sequence _ m | mapping _ m => m
  | broken fault => fault.place

mutual

/-- The fault in a node, if there is one. -/
def Node.fault? : Node → Option Fault
  | .scalar .. => none
  | .sequence items _ => itemFault? items
  | .mapping members _ => memberFault? members
  | .broken fault => some fault

/-- The first fault in some nodes. -/
def itemFault? : List Node → Option Fault
  | [] => none
  | n :: rest => n.fault?.or (itemFault? rest)

/-- The first fault in some members. -/
def memberFault? : List (Node × Node) → Option Fault
  | [] => none
  | (k, v) :: rest => (k.fault?.or v.fault?).or (memberFault? rest)

end

/-- A document read in part: the tokens left and the fault behind them, the
nodes that were given names, and the tag handles that are known. -/
structure Reading where
  tokens : List Token
  fault : Fault
  named : List (String × Node)
  handles : List String

namespace Reading

/-- The next token, if the text has not come to its fault. -/
def peek? (r : Reading) : Option Token := r.tokens.head?

/-- The kind of the next token. -/
def kind? (r : Reading) : Option TokenKind := r.peek?.map (·.kind)

/-- Goes past the next token. -/
def skip (r : Reading) : Reading := { r with tokens := r.tokens.drop 1 }

/-- Ends the reading with a fault. -/
def fail (r : Reading) (fault : Fault) : Reading := { r with tokens := [], fault := fault }

/-- The fault of a token that does not belong where it is, or the fault of the
text if there is no token. -/
def unexpected (r : Reading) (problem : String) (during : String × Mark) : Fault :=
  match r.peek? with
  | some t => ⟨problem, t.start, some during⟩
  | none => r.fault

/-- An empty text. -/
def empty (mark : Mark) : Node := .scalar "" .plain mark

/-- What is left out at the next token. -/
def leftOut (r : Reading) : Node :=
  match r.peek? with
  | some t => empty t.start
  | none => .broken r.fault

/-- Whether a node is left out in front of a token of a kind. -/
def isLeftOut (r : Reading) (ends : List TokenKind) : Bool := r.kind?.any ends.contains

/-- Takes the name in front of a node. -/
def anchor? (r : Reading) : Option String × Reading :=
  match r.kind? with
  | some (.anchor name) => (some name, r.skip)
  | _ => (none, r)

/-- Takes the tag in front of a node, whose handle has to be known. -/
def tagged (r : Reading) (start : Mark) : Bool × Reading :=
  match r.kind? with
  | some (.tag handle) =>
    if r.handles.contains handle then (true, r.skip)
    else (false, r.fail (r.unexpected "found undefined tag handle" ("while parsing a node", start)))
  | _ => (false, r)

/-- Takes the name and the tag in front of a node, in either order, and tells
whether there is any of them. -/
def properties (r : Reading) (start : Mark) : Option String × Bool × Reading :=
  let (before, r) := r.anchor?
  let (isTagged, r) := r.tagged start
  let (name, r) := if before.isSome then (before, r) else r.anchor?
  (name, isTagged || name.isSome, r)

/-- A node of which there is nothing but a name or a tag. -/
def bare (r : Reading) (isBlock hasProperties : Bool) (start : Mark) : Node × Reading :=
  if hasProperties && r.peek?.isSome then (empty start, r)
  else
    let activity := if isBlock then "while parsing a block node" else "while parsing a flow node"
    let fault := r.unexpected "did not find expected node content" (activity, start)
    (.broken fault, r.fail fault)

/-- Gives a node a name. -/
def call (r : Reading) (name : Option String) (n : Node) : Reading :=
  match name with
  | some name => { r with named := (name, n) :: r.named }
  | none => r

mutual

/-- Reads a node.  A block collection can only be read where `isBlock`, and a
sequence that is not indented only where a value of a mapping stands.  While a
collection is read its name stands for an empty one. -/
def node : Nat → Bool → Bool → Reading → Node × Reading
  | 0, _, _, r => (.broken r.fault, r.fail r.fault)
  | fuel + 1, isBlock, unindented, r =>
    match r.peek? with
    | none => (.broken r.fault, r)
    | some first =>
      let start := first.start
      match first.kind with
      | .alias name =>
        match r.named.lookup name with
        | some n => (n, r.skip)
        | none =>
          let fault : Fault := ⟨"unknown anchor", start, none⟩
          (.broken fault, r.fail fault)
      | _ =>
        let (name, hasProperties, r) := r.properties start
        let sequence := fun (items : List Node × Reading) =>
          let n := Node.sequence items.1 start
          (n, items.2.call name n)
        let mapping := fun (members : List (Node × Node) × Reading) =>
          let n := Node.mapping members.1 start
          (n, members.2.call name n)
        let open_ := r.call name (.mapping [] start)
        let here := (r.peek?.map (·.start)).getD start
        match r.kind? with
        | some .dash =>
          if unindented then sequence (unindentedItems fuel open_)
          else r.bare isBlock hasProperties start
        | some (.scalar text style) =>
          let n := Node.scalar text style start
          (n, r.skip.call name n)
        | some .flowSequenceStart => sequence (flowItems fuel true here open_.skip)
        | some .flowMappingStart => mapping (flowMembers fuel true here open_.skip)
        | some .blockSequence =>
          if isBlock then sequence (blockItems fuel here open_.skip)
          else r.bare isBlock hasProperties start
        | some .blockMapping =>
          if isBlock then mapping (blockMembers fuel here open_.skip)
          else r.bare isBlock hasProperties start
        | _ =>
          let (n, r) := r.bare isBlock hasProperties start
          (n, r.call name n)

/-- Reads a node unless it is left out in front of some tokens. -/
def nodeUnless : Nat → List TokenKind → Mark → Bool → Bool → Reading → Node × Reading
  | 0, _, _, _, _, r => (.broken r.fault, r.fail r.fault)
  | fuel + 1, ends, mark, isBlock, unindented, r =>
    if r.isLeftOut ends then (empty mark, r) else node fuel isBlock unindented r

/-- Reads the items of a block sequence, each behind a dash. -/
def blockItems : Nat → Mark → Reading → List Node × Reading
  | 0, _, r => ([.broken r.fault], r.fail r.fault)
  | fuel + 1, start, r =>
    match r.peek? with
    | some ⟨.dash, _, stop⟩ =>
      let (item, r) := nodeUnless fuel [.dash, .blockEnd] stop true false r.skip
      let (items, r) := blockItems fuel start r
      (item :: items, r)
    | some ⟨.blockEnd, _, _⟩ => ([], r.skip)
    | _ =>
      let fault := r.unexpected "did not find expected '-' indicator"
        ("while parsing a block collection", start)
      ([.broken fault], r.fail fault)

/-- Reads the items of a sequence that stands at the column of its key. -/
def unindentedItems : Nat → Reading → List Node × Reading
  | 0, r => ([.broken r.fault], r.fail r.fault)
  | fuel + 1, r =>
    match r.peek? with
    | some ⟨.dash, _, stop⟩ =>
      let (item, r) := nodeUnless fuel [.dash, .key, .value, .blockEnd] stop true false r.skip
      let (items, r) := unindentedItems fuel r
      (item :: items, r)
    | some _ => ([], r)
    | none => ([.broken r.fault], r)

/-- Reads the members of a block mapping. -/
def blockMembers : Nat → Mark → Reading → List (Node × Node) × Reading
  | 0, _, r => ([(.broken r.fault, .broken r.fault)], r.fail r.fault)
  | fuel + 1, start, r =>
    match r.peek? with
    | some ⟨.key, _, stop⟩ =>
      let ends := [.key, .value, .blockEnd]
      let (key, r) := nodeUnless fuel ends stop true true r.skip
      let (value, r) :=
        match r.peek? with
        | some ⟨.value, _, stop⟩ => nodeUnless fuel ends stop true true r.skip
        | _ => (r.leftOut, r)
      let (members, r) := blockMembers fuel start r
      ((key, value) :: members, r)
    | some ⟨.blockEnd, _, _⟩ => ([], r.skip)
    | _ =>
      let fault := r.unexpected "did not find expected key" ("while parsing a block mapping", start)
      ([(.broken fault, .broken fault)], r.fail fault)

/-- Reads the items between brackets.  A key and a value there are a mapping of
one member. -/
def flowItems : Nat → Bool → Mark → Reading → List Node × Reading
  | 0, _, _, r => ([.broken r.fault], r.fail r.fault)
  | fuel + 1, isFirst, start, r =>
    if r.kind? = some .flowSequenceEnd then ([], r.skip)
    else if !isFirst && r.kind? ≠ some .comma then
      let fault := r.unexpected "did not find expected ',' or ']'"
        ("while parsing a flow sequence", start)
      ([.broken fault], r.fail fault)
    else
      let r := if isFirst then r else r.skip
      match r.peek? with
      | some ⟨.flowSequenceEnd, _, _⟩ => ([], r.skip)
      | some ⟨.key, keyStart, stop⟩ =>
        let (key, r) := nodeUnless fuel [.value, .comma, .flowSequenceEnd] stop false false r.skip
        let (value, r) := flowValue fuel .flowSequenceEnd r
        let (items, r) := flowItems fuel false start r
        (.mapping [(key, value)] keyStart :: items, r)
      | _ =>
        let (item, r) := node fuel false false r
        let (items, r) := flowItems fuel false start r
        (item :: items, r)

/-- Reads the members between braces.  A node without a colon is a key whose
value is left out. -/
def flowMembers : Nat → Bool → Mark → Reading → List (Node × Node) × Reading
  | 0, _, _, r => ([(.broken r.fault, .broken r.fault)], r.fail r.fault)
  | fuel + 1, isFirst, start, r =>
    if r.kind? = some .flowMappingEnd then ([], r.skip)
    else if !isFirst && r.kind? ≠ some .comma then
      let fault := r.unexpected "did not find expected ',' or '\x7d'"
        ("while parsing a flow mapping", start)
      ([(.broken fault, .broken fault)], r.fail fault)
    else
      let r := if isFirst then r else r.skip
      match r.peek? with
      | some ⟨.flowMappingEnd, _, _⟩ => ([], r.skip)
      | some ⟨.key, _, stop⟩ =>
        let (key, r) := nodeUnless fuel [.value, .comma, .flowMappingEnd] stop false false r.skip
        let (value, r) := flowValue fuel .flowMappingEnd r
        let (members, r) := flowMembers fuel false start r
        ((key, value) :: members, r)
      | _ =>
        let (key, r) := node fuel false false r
        let value := r.leftOut
        let (members, r) := flowMembers fuel false start r
        ((key, value) :: members, r)

/-- Reads the value of a key between brackets or braces. -/
def flowValue : Nat → TokenKind → Reading → Node × Reading
  | 0, _, r => (.broken r.fault, r.fail r.fault)
  | fuel + 1, ends, r =>
    match r.peek? with
    | some ⟨.value, start, _⟩ => nodeUnless fuel [.comma, ends] start false false r.skip
    | _ => (r.leftOut, r)

end

/-- Whether a token is a directive. -/
def isDirective : TokenKind → Bool
  | .version _ _ | .tagHandle _ _ => true
  | _ => false

/-- Reads the directives in front of a document. -/
def directives (versioned : Bool) (r : Reading) : List Token → Reading
  | [] => r
  | t :: rest =>
    match t.kind with
    | .version major minor =>
      if versioned then r.fail ⟨"found duplicate %YAML directive", t.start, none⟩
      else if major ≠ 1 ∨ (minor ≠ 1 ∧ minor ≠ 2) then
        r.fail ⟨"found incompatible YAML document", t.start, none⟩
      else directives true r.skip rest
    | .tagHandle handle _ =>
      if handle ≠ "!" ∧ handle ≠ "!!" ∧ r.handles.contains handle then
        r.fail ⟨"found duplicate %TAG directive", t.start, none⟩
      else directives versioned { r.skip with handles := handle :: r.handles } rest
    | _ => r

/-- Reads the node of a document. -/
def root (r : Reading) : Node × Reading := node (8 * (r.tokens.length + 1)) true false r

/-- Reads the content of a document, which may be left out. -/
def content (r : Reading) : Node × Reading :=
  match r.peek? with
  | some t =>
    if isDirective t.kind || r.isLeftOut [.documentStart, .documentEnd, .textEnd] then
      (empty t.start, r)
    else r.root
  | none => (.broken r.fault, r)

/-- Reads a document, which may begin without a mark.  No document at all is one
that is left out. -/
def document (r : Reading) : Node × Reading :=
  match r.kind? with
  | some .textEnd => (empty Mark.start, r)
  | some kind =>
    if isDirective kind || kind == .documentStart then
      let r := directives false r r.tokens
      match r.peek? with
      | some ⟨.documentStart, _, _⟩ => r.skip.content
      | some t =>
        let fault : Fault := ⟨"did not find expected <document start>", t.start, none⟩
        (.broken fault, r.fail fault)
      | none => (.broken r.fault, r)
    else r.root
  | none => (.broken r.fault, r)

/-- What is wrong behind a document, which has to be the only one. -/
def faultBehind? (r : Reading) : Option Fault :=
  match r.peek? with
  | none => some r.fault
  | some _ =>
    match r.tokens.dropWhile (·.kind = .documentEnd) with
    | ⟨.textEnd, _, _⟩ :: _ => none
    | _ => some ⟨"deserializing from YAML containing more than one document is not supported",
        Mark.start, none⟩

end Reading

/-- The document of a text, and the fault behind it, if there is one. -/
def Node.read (text : String) : Node × Option Fault :=
  let (tokens, fault) := tokens text
  let fault := fault.getD ⟨"did not find expected <stream-end>", Mark.start, none⟩
  let (root, r) := (⟨tokens, fault, [], ["!", "!!"]⟩ : Reading).document
  (root, r.faultBehind?)

end BrowserSuite.Yaml
