import BrowserSuite.WebDriver.Tracks
import BrowserSuite.WebDriver.Url

/-!
# Sessions at a driver

Opening a session and making its calls, as conversations with the driver.  An
open session belongs to the identifier that the driver gave it; once it has
been quit every call fails and nothing is sent.
-/

namespace BrowserSuite.WebDriver

/-- How a browser is asked for. -/
structure BrowserChoice where
  browser : String
  headless : Bool
  deriving DecidableEq, Repr

/-- The capabilities that a session must have. -/
def BrowserChoice.capabilities (choice : BrowserChoice) : Json.Value :=
  let args := fun (texts : List String) => [("args", Json.Value.array (texts.map .string))]
  let w3c := [("w3c", Json.Value.bool true)]
  let members := match Text.lower choice.browser with
    | "chrome" | "chromium" =>
      let hidden := if choice.headless then args ["--headless=new", "--disable-gpu"] else []
      [("browserName", Json.Value.string "chrome"),
        ("goog:chromeOptions", .ofMembers (w3c ++ hidden))]
    | _ =>
      let hidden := if choice.headless then
          [("moz:firefoxOptions", Json.Value.ofMembers (args ["-headless"]))]
        else []
      [("browserName", Json.Value.string "firefox"), ("goog:chromeOptions", .ofMembers w3c)]
        ++ hidden
  .ofMembers (("pageLoadStrategy", .string "normal") :: members)

/-- A session at a driver. -/
structure Session where
  id : String
  isOpen : Bool
  deriving DecidableEq, Repr

namespace Session

/-- Opens a session.  The driver at `url` names it in its reply. -/
def start (choice : BrowserChoice) (url : String) : Conversation Session := do
  let body := Json.Value.ofMembers [("capabilities", .ofMembers [
    ("firstMatch", .array [.ofMembers []]), ("alwaysMatch", choice.capabilities)])]
  let refused := fun (e : BrowserError) => BrowserError.session
    s!"cannot start {choice.browser} session at {url}: {e.message}"
  match ← attempt (send .post "/session" (some body)) with
  | .error e => throw (refused e)
  | .ok value =>
    match value.get? "sessionId" with
    | some (.string id) => return ⟨id, true⟩
    | _ => throw (refused (unexpected value))

/-- The path of something that belongs to a session. -/
def path (s : Session) (resource : String) : String :=
  let below := s!"session/{s.id}/{resource}"
  let driver : Url := ⟨"http", some ⟨"", "", "driver", none⟩, .segments [""], none, none⟩
  match driver.join? below with
  | some url => url.target
  | none => "/" ++ below

/-- The path of something that belongs to an element. -/
def elementPath (s : Session) (e : Element) (resource : String) : String :=
  s.path s!"element/{e.id}/{resource}"

/-- How a driver is told to look for elements. -/
def searchBody (strategy expression : String) : Option Json.Value :=
  some (.ofMembers [("using", .string strategy), ("value", .string expression)])

/-- A search by a style rule. -/
def styleSearch (rule : String) : Option Json.Value := searchBody "css selector" rule

/-- The search for a locator. -/
def locatorSearch (l : Locator) : Option Json.Value :=
  match l.kind with
  | .xpath => searchBody "xpath" l.target
  | .id => searchBody "xpath" ("//*[@id=\"" ++ l.target ++ "\"]")
  | .css => styleSearch l.target
  | .name => styleSearch ("[name=\"" ++ l.target ++ "\"]")
  | .linkText => searchBody "link text" l.target

/-- An empty body. -/
def nothing : Option Json.Value := some (.ofMembers [])

/-- Accepts a value that says no more than that something has been done. -/
def expectDone : Json.Value → Conversation Unit
  | .null | .object [] => pure ()
  | value => throw (unexpected value)

/-- Clicks an element. -/
def click (s : Session) (e : Element) : Conversation Unit := do
  expectDone (← send .post (s.elementPath e "click") nothing)

/-- Finds the first element of a search. -/
def find (s : Session) (search : Option Json.Value) : Conversation Element := do
  ExceptT.mk (.done (Element.ofValue (← send .post (s.path "element") search)))

/-- Finds all elements of a search. -/
def findAll (s : Session) (search : Option Json.Value) : Conversation (List Element) := do
  ExceptT.mk (.done (Element.listOfValue (← send .post (s.path "elements") search)))

/-- Clicks the option of a list that a search within it finds. -/
def choose (s : Session) (list : Element) (search : Option Json.Value) : Conversation Unit := do
  let value ← send .post (s.elementPath list "element") search
  let option ← ExceptT.mk (.done (Element.ofValue value))
  s.click option

/-- Switches to the frame of an identifier, or to the page itself for none. -/
def enter (s : Session) (frame : Json.Value) : Conversation Unit := do
  discard (send .post (s.path "frame") (some (.ofMembers [("id", frame)])))

/-- The address that `url` means on the page that is shown. -/
def resolve (s : Session) (url : String) : Conversation String := do
  match ← send .get (s.path "url") none with
  | .string shown =>
    let base := Url.read? (if shown.isEmpty then "about:blank" else shown)
    match base.bind (·.join? url) with
    | some address => pure address.text
    | none => throw (.driver s!"not an address: {url}")
  | value => throw (unexpected value)

/-- A length in a signed 32-bit word. -/
def word (n : Nat) : Json.Value := .int (Int.bmod n (Nat.pow 2 32))

/-- Makes a call. -/
def perform (s : Session) (c : Call Element) : Conversation c.Reply :=
  if s.isOpen then
    match c with
    | .navigate url => do
      let address ← s.resolve url
      discard (send .post (s.path "url") (some (.ofMembers [("url", .string address)])))
    | .find locator => s.find (locatorSearch locator)
    | .findAll locator => s.findAll (locatorSearch locator)
    | .click e => s.click e
    | .clear e => do
      match ← send .post (s.elementPath e "clear") nothing with
      | .null => pure ()
      | value => throw (unexpected value)
    | .sendKeys e text => do
      let body := Json.Value.ofMembers [("text", .string text)]
      expectDone (← send .post (s.elementPath e "value") (some body))
    | .readText e => do
      match ← send .get (s.elementPath e "text") none with
      | .string text => pure text
      | value => throw (unexpected value)
    | .readAttribute e name => do
      match ← send .get (s.elementPath e s!"attribute/{name}") none with
      | .string text => pure (some text)
      | .null => pure none
      | value => throw (unexpected value)
    | .selectByText e label =>
      s.choose e (searchBody "xpath" (".//option[.='" ++ label ++ "']"))
    | .selectByValue e value => s.choose e (styleSearch ("option[value='" ++ value ++ "']"))
    | .frames => s.findAll (styleSearch "iframe")
    | .switchToFrame (.index n) => s.enter (.int n)
    | .switchToFrame (.element e) => s.enter e.value
    | .switchToFrame (.name n) => do
      let rule := "iframe[name=\"" ++ n ++ "\"], iframe#" ++ n ++ ", frame[name=\"" ++ n ++ "\"]"
      let frame ← s.find (styleSearch rule)
      s.enter frame.value
    | .switchToDefault => s.enter .null
    | .setWindowSize width height =>
      discard (send .post (s.path "window/rect")
        (some (.ofMembers [("width", word width), ("height", word height)])))
    | .performGestures [] => pure ()
    | .performGestures steps => do
      discard (send .post (s.path "actions") (some (tracks steps)))
      discard (attempt (send .delete (s.path "actions") none))
    | .quit => discard (attempt (send .delete s!"/session/{s.id}" none))
  else throw (.session "the session has been closed")

/-- The session after a call. -/
def after (s : Session) : Call Element → Session
  | .quit => { s with isOpen := false }
  | _ => s

end Session

end BrowserSuite.WebDriver
