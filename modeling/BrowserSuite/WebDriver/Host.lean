import BrowserSuite.Text.Lower
import BrowserSuite.Text.Split
import BrowserSuite.WebDriver.Percent

/-!
# Hosts

The host of an address in the one way it is written: a name in lower case with
every label in ASCII, an IPv4 address as four decimal numbers, or an IPv6
address in brackets with its longest run of zeros left out.
-/

namespace BrowserSuite.WebDriver

/-! ## Labels in ASCII -/

/-- How the base of the label code adapts after `count` characters. -/
def adaptBias (delta count : Nat) (first : Bool) : Nat :=
  go 64 (let d := if first then delta / 700 else delta / 2; d + d / count) 0
where
  /-- Divides until the delta is small, counting the steps. -/
  go : Nat → Nat → Nat → Nat
    | 0, delta, k => k + 36 * delta / (delta + 38)
    | fuel + 1, delta, k =>
      if 455 < delta then go fuel (delta / 35) (k + 36) else k + 36 * delta / (delta + 38)

/-- A digit of the label code: letters before numerals. -/
def labelDigit (n : Nat) : Char :=
  if n < 26 then Char.ofNat (0x61 + n) else Char.ofNat (0x30 + (n - 26))

/-- A number of variable length in the label code. -/
def labelNumber : Nat → Nat → Nat → Nat → List Char
  | 0, _, _, q => [labelDigit q]
  | fuel + 1, bias, k, q =>
    let t := if k ≤ bias then 1 else if bias + 26 ≤ k then 26 else k - bias
    if q < t then [labelDigit q]
    else labelDigit (t + (q - t) % (36 - t)) :: labelNumber fuel bias (k + 36) ((q - t) / (36 - t))

/-- The state of encoding a label. -/
structure LabelState where
  delta : Nat
  bias : Nat
  handled : Nat
  isFirst : Bool
  output : List Char

/-- Encodes all characters of one code point, which is the least not handled
yet. -/
def LabelState.encode (codePoint : Nat) (label : List Char) (state : LabelState) : LabelState :=
  label.foldl (fun st c =>
    if c.toNat < codePoint then { st with delta := st.delta + 1 }
    else if c.toNat = codePoint then
      { delta := 0
        bias := adaptBias st.delta (st.handled + 1) st.isFirst
        handled := st.handled + 1
        isFirst := false
        output := st.output ++ labelNumber 64 st.bias 36 st.delta }
    else st) state

/-- A label with characters beyond ASCII, written in ASCII. -/
def encodeLabel (label : List Char) : List Char :=
  let basic := label.filter (·.toNat < 0x80)
  let others := ((label.map (·.toNat)).filter (0x80 ≤ ·)).mergeSort.eraseDups
  let start : LabelState := ⟨0, 72, basic.length, true, []⟩
  let (final, _) := others.foldl (fun (acc : LabelState × Nat) codePoint =>
    let (st, next) := acc
    let st := { st with delta := st.delta + (codePoint - next) * (st.handled + 1) }
    let st := st.encode codePoint label
    ({ st with delta := st.delta + 1 }, codePoint + 1)) (start, 0x80)
  ['x', 'n', '-', '-'] ++ basic ++ (if basic.isEmpty then [] else ['-']) ++ final.output

/-- The characters that no host name holds. -/
def isForbiddenInHost (c : Char) : Bool :=
  c.toNat ≤ 0x20 || c.toNat == 0x7f ||
    ['#', '/', ':', '<', '>', '?', '@', '[', '\\', ']', '^', '|'].contains c

/-- The characters that no name of a machine on the web holds. -/
def isForbiddenInName (c : Char) : Bool :=
  isForbiddenInHost c || ['%', '\x60', '\x7b', '\x7d'].contains c

/-! ## IPv4 -/

/-- The digits of a number in some base; there is none for an empty text with
`0` as its value. -/
def numberIn? (base : Nat) (digits : List Char) : Option Nat :=
  digits.foldlM (fun n c => do
    let d ← hexDigitValue? c
    if d < base then some (n * base + d) else none) 0

/-- A number of an IPv4 address: decimal, octal after `0` or hexadecimal after
`0x`. -/
def addressNumber? : List Char → Option Nat
  | [] => none
  | '0' :: 'x' :: digits | '0' :: 'X' :: digits => numberIn? 16 digits
  | '0' :: d :: digits => numberIn? 8 (d :: digits)
  | digits => numberIn? 10 digits

/-- The parts of a name between its dots, without an empty last one. -/
def nameParts (name : List Char) : List (List Char) :=
  let parts := Text.fields ['.'] name
  if parts.getLast? = some [] ∧ 1 < parts.length then parts.dropLast else parts

/-- Whether the last part of a name is a number, so that the name has to be an
IPv4 address. -/
def endsInNumber (name : List Char) : Bool :=
  match (nameParts name).getLast? with
  | some part => (!part.isEmpty && part.all Char.isDigit) ||
      match part with
      | '0' :: 'x' :: _ | '0' :: 'X' :: _ => (addressNumber? part).isSome
      | _ => false
  | none => false

/-- An IPv4 address as four decimal numbers.  The last number written fills all
the bytes that are left. -/
def ipv4Text? (name : List Char) : Option String := do
  let numbers ← (nameParts name).mapM addressNumber?
  if 4 < numbers.length then none
  let last ← numbers.getLast?
  let others := numbers.dropLast
  if others.any (255 < ·) || Nat.pow 256 (4 - others.length) ≤ last then none
  let value := others.zipIdx.foldl (fun sum (n, i) => sum + n * Nat.pow 256 (3 - i)) last
  some (Text.join "." ([3, 2, 1, 0].map fun i => toString (value / Nat.pow 256 i % 256)))

/-! ## IPv6 -/

/-- A group of an IPv6 address: one to four hexadecimal digits. -/
def group? (digits : List Char) : Option Nat :=
  if digits.isEmpty || 4 < digits.length then none else numberIn? 16 digits

/-- One of the four decimal numbers at the end of an IPv6 address. -/
def byte? (digits : List Char) : Option Nat :=
  if digits.isEmpty || (1 < digits.length && digits.head? = some '0') then none
  else (numberIn? 10 digits).filter (· < 256)

/-- The groups of a part of an IPv6 address without `::`.  The last group may be
an IPv4 address. -/
def groups? : List (List Char) → Option (List Nat)
  | [] => some []
  | [last] =>
    if last.contains '.' then
      match (Text.fields ['.'] last).mapM byte? with
      | some [a, b, c, d] => some [256 * a + b, 256 * c + d]
      | _ => none
    else (group? last).map fun n => [n]
  | field :: rest => do
    let n ← group? field
    let ns ← groups? rest
    some (n :: ns)

/-- The groups of a text that may be empty. -/
def groupsOf? (text : List Char) : Option (List Nat) :=
  if text.isEmpty then some [] else groups? (Text.fields [':'] text)

/-- The eight groups of an IPv6 address; `::` stands for one or more zeros. -/
def ipv6Groups? (text : List Char) : Option (List Nat) :=
  match Text.fields [':', ':'] text with
  | [whole] => (groups? (Text.fields [':'] whole)).filter (·.length = 8)
  | [front, back] => do
    if front.contains '.' then none
    let front ← groupsOf? front
    let back ← groupsOf? back
    if 7 < front.length + back.length then none
    some (front ++ List.replicate (8 - front.length - back.length) 0 ++ back)
  | _ => none

/-- A group in hexadecimal without leading zeros. -/
def groupText (n : Nat) : String := String.ofList (Nat.toDigits 16 n)

/-- How many zeros a list begins with. -/
def zerosAhead (groups : List Nat) : Nat := (groups.takeWhile (· = 0)).length

/-- Where the first longest run of two or more zeros begins, and its length. -/
def longestZeros (groups : List Nat) : Option (Nat × Nat) :=
  (List.range groups.length).foldl (fun best i =>
    let n := zerosAhead (groups.drop i)
    match best with
    | some (_, m) => if m < n then some (i, n) else best
    | none => if 2 ≤ n then some (i, n) else none) none

/-- An IPv6 address in brackets. -/
def ipv6Text (groups : List Nat) : String :=
  let texts := fun (gs : List Nat) => Text.join ":" (gs.map groupText)
  let body := match longestZeros groups with
    | some (start, length) =>
      texts (groups.take start) ++ "::" ++ texts (groups.drop (start + length))
    | none => texts groups
  "[" ++ body ++ "]"

/-! ## Hosts -/

/-- A name of a machine on the web, in lower case and ASCII. -/
def machineName? (text : List Char) : Option (List Char) := do
  let bytes := percentDecode text
  let name ← String.fromUTF8? (ByteArray.mk bytes.toArray)
  let labels := Text.fields ['.'] (Text.lower name).toList
  let labels := labels.map fun label =>
    if label.all (·.toNat < 0x80) then label else encodeLabel label
  let name := Text.joinFields ['.'] labels
  if name.isEmpty || name.any isForbiddenInName then none else some name

/-- The written form of a host.  Under a scheme that is not one of the web's it
is left as it stands but for what cannot be printed. -/
def hostText? (isWeb : Bool) (text : List Char) : Option String :=
  match text with
  | '[' :: rest =>
    if rest.getLast? = some ']' then (ipv6Groups? rest.dropLast).map ipv6Text else none
  | _ =>
    if isWeb then do
      let name ← machineName? text
      if endsInNumber name then ipv4Text? name else some (String.ofList name)
    else if text.any isForbiddenInHost then none
    else some (String.ofList (percentEncode [] text))

end BrowserSuite.WebDriver
