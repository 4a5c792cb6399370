import BrowserSuite.Browser.Error
import BrowserSuite.Json.Printer
import BrowserSuite.Json.Reader
import BrowserSuite.Program

/-!
# Exchanges with a driver

A browser is driven by requests to a server, each answered by one reply.  A
reply holds a `value`: what was asked for, or, under an error status, the code
of an error and a message.  The code decides which kind of browser error it is.

A conversation is a program whose requests are these, so that what is sent
depends on nothing but the replies.
-/

namespace BrowserSuite.WebDriver

/-- What is done with the resource of a request. -/
inductive Method where
  | get
  | post
  | delete
  deriving DecidableEq, Repr

/-- How a method is written. -/
def Method.name : Method → String
  | get => "GET"
  | post => "POST"
  | delete => "DELETE"

/-- A request to the driver. -/
structure Request where
  method : Method
  path : String
  body : Option Json.Value

/-- What comes back: a status and a text, or nothing before the connection
closes. -/
inductive Reply where
  | answer (status : Nat) (body : String)
  | dropped

/-- A conversation with a driver that ends with a result or an error. -/
abbrev Conversation := ExceptT BrowserError (Program fun _ : Request => Reply)

/-- The error of a code, if it is a code that drivers are allowed to use. -/
def errorOfCode? (code : String) (detail : String) : Option BrowserError :=
  match code with
  | "invalid session id" | "session not created" | "no such window" => some (.session detail)
  | "no such element" => some (.noSuchElement detail)
  | "stale element reference" => some (.staleElement detail)
  | "no such frame" => some (.noSuchFrame detail)
  | "element not interactable" | "element not visible" => some (.notInteractable detail)
  | "detached shadow root" | "element click intercepted" | "element not selectable"
  | "insecure certificate" | "invalid argument" | "invalid cookie domain"
  | "invalid coordinates" | "invalid element coordinates" | "invalid element state"
  | "invalid selector" | "javascript error" | "move target out of bounds" | "no such alert"
  | "no such cookie" | "no such shadow root" | "script timeout" | "timeout"
  | "unable to capture screen" | "unable to set cookie" | "unexpected alert open"
  | "unknown command" | "unknown error" | "unknown method" | "unknown path"
  | "unsupported operation" => some (.driver detail)
  | _ => none

/-- The error of a value that a driver should not have sent. -/
def unexpected (value : Json.Value) : BrowserError :=
  .driver ("webdriver returned non-conforming response: " ++ value.compact)

/-- The error that the value of a reply with an error status stands for. -/
def errorOfValue (value : Json.Value) : BrowserError :=
  match value.get? "error", value.get? "message" with
  | some (.string code), some (.string message) =>
    (errorOfCode? code ("webdriver returned error: " ++ message)).getD (unexpected value)
  | _, _ => unexpected value

/-- The value of a reply, or the error it stands for. -/
def Reply.value : Reply → Except BrowserError Json.Value
  | dropped => .error (.session "the connection to the driver was lost")
  | answer status body =>
    match Json.Value.read? body with
    | none => .error (.driver "the reply of the driver is not JSON")
    | some whole =>
      match whole.get? "value" with
      | none => .error (unexpected whole)
      | some value => if status / 100 = 2 then .ok value else .error (errorOfValue value)

/-- Sends a request and waits for its value. -/
def send (method : Method) (path : String) (body : Option Json.Value) :
    Conversation Json.Value :=
  ExceptT.mk (Program.ask ⟨method, path, body⟩ fun reply => .done reply.value)

/-- A conversation whose error is a result. -/
def attempt {α : Type} (c : Conversation α) : Conversation (Except BrowserError α) :=
  ExceptT.mk (Program.bind c.run fun result => .done (.ok result))

end BrowserSuite.WebDriver
