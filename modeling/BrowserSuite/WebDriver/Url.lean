import BrowserSuite.WebDriver.Host

/-!
# Addresses

An address as a browser reads it, and how one is resolved against another.  A
reader forgives much: blanks around the address, line breaks inside it,
backslashes for slashes under the web's schemes.  What it yields has one
written form.
-/

namespace BrowserSuite.WebDriver

/-- Who is asked, and where. -/
structure Authority where
  user : String
  password : String
  host : String
  port : Option Nat
  deriving DecidableEq, Repr

/-- The path of an address: its segments, or a text that has none. -/
inductive UrlPath where
  | segments (names : List String)
  | plain (text : String)
  deriving DecidableEq, Repr

/-- An address with every part in its written form. -/
structure Url where
  scheme : String
  authority : Option Authority
  path : UrlPath
  query : Option String
  fragment : Option String
  deriving DecidableEq, Repr

namespace Url

/-- The port that a scheme of the web uses unless told otherwise. -/
def usualPort? : String → Option Nat
  | "http" | "ws" => some 80
  | "https" | "wss" => some 443
  | "ftp" => some 21
  | _ => none

/-- Whether addresses of a scheme have a host and a path of segments. -/
def isWebScheme (scheme : String) : Bool := (usualPort? scheme).isSome || scheme == "file"

/-! ## Writing -/

/-- The authority in its written form. -/
def authorityText (a : Authority) : String :=
  let password := if a.password.isEmpty then "" else ":" ++ a.password
  let user := if a.user.isEmpty && a.password.isEmpty then "" else a.user ++ password ++ "@"
  let port := match a.port with
    | some p => ":" ++ toString p
    | none => ""
  user ++ a.host ++ port

/-- The path in its written form. -/
def pathText : UrlPath → String
  | .segments names => String.join (names.map ("/" ++ ·))
  | .plain text => text

/-- A query in its written form. -/
def queryText : Option String → String
  | some q => "?" ++ q
  | none => ""

/-- What is asked of the host: the path and the query. -/
def target (u : Url) : String := pathText u.path ++ queryText u.query

/-- The written form of an address. -/
def text (u : Url) : String :=
  let place := match u.authority, u.path with
    | some a, _ => "//" ++ authorityText a
    | none, .segments ("" :: _ :: _) => "/."
    | none, _ => ""
  let fragment := match u.fragment with
    | some f => "#" ++ f
    | none => ""
  u.scheme ++ ":" ++ place ++ u.target ++ fragment

/-! ## Reading -/

/-- Whether a character stands between segments. -/
def isSlash (isWeb : Bool) (c : Char) : Bool := c == '/' || (isWeb && c == '\\')

/-- Whether a character ends the authority. -/
def endsAuthority (isWeb : Bool) (c : Char) : Bool := isSlash isWeb c || c == '?' || c == '#'

/-- A text without the blanks around it and the line breaks and tabs inside. -/
def clean (s : List Char) : List Char :=
  let isOuter := fun c : Char => decide (c.toNat ≤ 0x20)
  let s := ((s.dropWhile isOuter).reverse.dropWhile isOuter).reverse
  s.filter fun c => !(c == '\t' || c == '\n' || c == '\r')

/-- The scheme of an address, in lower case, and what follows its colon. -/
def scheme? (s : List Char) : Option (String × List Char) :=
  let isPart := fun c : Char => c.isAlphanum || c == '+' || c == '-' || c == '.'
  match s.takeWhile isPart, s.dropWhile isPart with
  | c :: cs, ':' :: rest =>
    if c.isAlpha then some (String.ofList ((c :: cs).map Char.toLower), rest) else none
  | _, _ => none

/-- Whether a segment names the one above. -/
def isParentSegment (s : List Char) : Bool :=
  ["..", ".%2e", "%2e.", "%2e%2e"].contains (String.ofList (s.map Char.toLower))

/-- Whether a segment names where it stands. -/
def isHereSegment (s : List Char) : Bool :=
  [".", "%2e"].contains (String.ofList (s.map Char.toLower))

/-- The pieces of a path between its slashes. -/
def pieces (isWeb : Bool) (s : List Char) : List (List Char) :=
  match s with
  | [] => [[]]
  | c :: rest =>
    if isSlash isWeb c then [] :: pieces isWeb rest
    else Text.pushFront c (pieces isWeb rest)

/-- Walks from the segments reached so far along some pieces. -/
def walk (reached : List String) : List (List Char) → List String
  | [] => reached
  | [last] =>
    if isParentSegment last then reached.dropLast ++ [""]
    else if isHereSegment last then reached ++ [""]
    else reached ++ [String.ofList (percentEncode pathSpecial last)]
  | piece :: rest =>
    if isParentSegment piece then walk reached.dropLast rest
    else if isHereSegment piece then walk reached rest
    else walk (reached ++ [String.ofList (percentEncode pathSpecial piece)]) rest

/-- The text before the query and the fragment, and the rest. -/
def cutPath (s : List Char) : List Char × List Char :=
  let isPart := fun c : Char => !(c == '?' || c == '#')
  (s.takeWhile isPart, s.dropWhile isPart)

/-- The fragment at the start of what is left. -/
def fragmentOf : List Char → Option String
  | '#' :: rest => some (String.ofList (percentEncode fragmentSpecial rest))
  | _ => none

/-- The query at the start of what is left, and what follows it. -/
def queryOf (isWeb : Bool) : List Char → Option String × List Char
  | '?' :: rest =>
    let isPart := fun c : Char => !(c == '#')
    (some (String.ofList (percentEncode (querySpecial isWeb) (rest.takeWhile isPart))),
      rest.dropWhile isPart)
  | rest => (none, rest)

/-- An address with a path, a query and a fragment read from a text; the path
walks on from the segments reached. -/
def withPath (scheme : String) (authority : Option Authority) (reached : List String)
    (s : List Char) : Url :=
  let (path, rest) := cutPath s
  let (query, rest) := queryOf (isWebScheme scheme) rest
  let names := walk reached (pieces (isWebScheme scheme) path)
  ⟨scheme, authority, .segments names, query, fragmentOf rest⟩

/-- An address whose path follows an authority.  A path that is left out is the
root under the web's schemes. -/
def afterAuthority (scheme : String) (authority : Authority) (s : List Char) : Url :=
  match s with
  | c :: rest =>
    if isSlash (isWebScheme scheme) c then withPath scheme (some authority) [] rest
    else if isWebScheme scheme then withPath scheme (some authority) [] s
    else
      let (query, rest) := queryOf false s
      ⟨scheme, some authority, .segments [], query, fragmentOf rest⟩
  | [] =>
    ⟨scheme, some authority, .segments (if isWebScheme scheme then [""] else []), none, none⟩

/-- A port; the scheme's usual one is left out. -/
def port? (scheme : String) (digits : List Char) : Option (Option Nat) :=
  if digits.isEmpty then some none
  else if digits.all Char.isDigit then
    (numberIn? 10 digits).bind fun p =>
      if 65535 < p then none
      else if usualPort? scheme = some p then some none
      else some (some p)
  else none

/-- Where the host ends: at the first colon outside brackets. -/
def cutHost (inBrackets : Bool) : List Char → List Char × List Char
  | [] => ([], [])
  | c :: rest =>
    if c = ':' ∧ !inBrackets then ([], rest)
    else
      let inBrackets := c == '[' || (inBrackets && c != ']')
      let (host, port) := cutHost inBrackets rest
      (c :: host, port)

/-- The user and password before the last `@`, and the place after it. -/
def cutUser (s : List Char) : Option (List Char) × List Char :=
  match s.reverse.dropWhile (· != '@') with
  | [] => (none, s)
  | _ :: before => (some before.reverse, (s.reverse.takeWhile (· != '@')).reverse)

/-- The authority of a text that holds nothing else. -/
def authority? (scheme : String) (s : List Char) : Option Authority := do
  let (user, place) := cutUser s
  let (host, port) := cutHost false place
  if host.isEmpty && (isWebScheme scheme || user.isSome || !port.isEmpty) then none
  let host ← if host.isEmpty then some "" else hostText? (isWebScheme scheme) host
  let port ← port? scheme port
  let user := user.getD []
  let encoded := fun (s : List Char) => String.ofList (percentEncode userSpecial s)
  some {
    user := encoded (user.takeWhile (· != ':'))
    password := encoded ((user.dropWhile (· != ':')).drop 1)
    host := host
    port := port }

/-- An address that goes on with its authority. -/
def ofAuthority? (scheme : String) (s : List Char) : Option Url := do
  let ends := endsAuthority (isWebScheme scheme)
  let authority ← authority? scheme (s.takeWhile (!ends ·))
  some (afterAuthority scheme authority (s.dropWhile (!ends ·)))

/-- The address of a file: two slashes are followed by a host that may be empty,
any other path stands for itself or is resolved against the one of `base`. -/
def ofFile? (base : Option Url) (s : List Char) : Option Url :=
  let nobody : Authority := ⟨"", "", "", none⟩
  match s with
  | a :: b :: rest =>
    if isSlash true a && isSlash true b then
      let ends := endsAuthority true
      let hostChars := rest.takeWhile (!ends ·)
      let host := if hostChars.isEmpty then some "" else hostText? true hostChars
      host.map fun h =>
        let h := if h = "localhost" then "" else h
        afterAuthority "file" ⟨"", "", h, none⟩ (rest.dropWhile (!ends ·))
    else if isSlash true a then some (withPath "file" (some nobody) [] (b :: rest))
    else onBase nobody s
  | [c] => if isSlash true c then some (withPath "file" (some nobody) [] []) else onBase nobody s
  | [] => onBase nobody s
where
  /-- Resolves a path against the base, or against the root. -/
  onBase (nobody : Authority) (s : List Char) : Option Url :=
    match base with
    | some b =>
      match b.path, s with
      | .segments names, [] => some { b with path := .segments names, fragment := none }
      | .segments _, '?' :: _ =>
        let (query, rest) := queryOf true s
        some { b with query := query, fragment := fragmentOf rest }
      | .segments _, '#' :: _ => some { b with fragment := fragmentOf s }
      | .segments names, _ => some (withPath "file" b.authority names.dropLast s)
      | .plain _, _ => none
    | none => some (withPath "file" (some nobody) [] s)

/-- What a text without a scheme of its own means at `base`. -/
def relative? (base : Url) (s : List Char) : Option Url :=
  let isWeb := isWebScheme base.scheme
  match base.path with
  | .plain _ => none
  | .segments names =>
    match s with
    | [] => some { base with fragment := none }
    | '?' :: _ =>
      let (query, rest) := queryOf isWeb s
      some { base with query := query, fragment := fragmentOf rest }
    | '#' :: _ => some { base with fragment := fragmentOf s }
    | c :: rest =>
      if isSlash isWeb c then
        match rest with
        | d :: more =>
          if isSlash isWeb d then
            ofAuthority? base.scheme
              (if c = '/' ∧ d = '/' then more else more.dropWhile (isSlash isWeb))
          else some (withPath base.scheme base.authority [] rest)
        | [] => some (withPath base.scheme base.authority [] [])
      else some (withPath base.scheme base.authority names.dropLast s)

/-- An address whose scheme has been read. -/
def ofScheme? (base : Option Url) (scheme : String) (s : List Char) : Option Url :=
  if scheme = "file" then ofFile? (base.filter (·.scheme == "file")) s
  else if isWebScheme scheme then
    let slashes := (s.takeWhile (isSlash true)).length
    match base.filter fun b => b.scheme == scheme && slashes < 2 with
    | some b => relative? b s
    | none => ofAuthority? scheme (s.dropWhile (isSlash true))
  else
    match s with
    | '/' :: '/' :: rest => ofAuthority? scheme rest
    | '/' :: rest => some (withPath scheme none [] rest)
    | _ =>
      let (path, rest) := cutPath s
      let (query, rest) := queryOf false rest
      some ⟨scheme, none, .plain (String.ofList (percentEncode [] path)), query, fragmentOf rest⟩

/-- The address that a text means at `base`. -/
def resolve? (base : Option Url) (text : String) : Option Url :=
  let s := clean text.toList
  match scheme? s with
  | some (scheme, rest) => ofScheme? base scheme rest
  | none =>
    base.bind fun b =>
      match s with
      | '#' :: _ => some { b with fragment := fragmentOf s }
      | _ => if b.scheme == "file" then ofFile? (some b) s else relative? b s

/-- The address that a text means on its own. -/
def read? (text : String) : Option Url := resolve? none text

/-- The address that a text means at this one. -/
def join? (base : Url) (text : String) : Option Url := resolve? (some base) text

end Url

end BrowserSuite.WebDriver
