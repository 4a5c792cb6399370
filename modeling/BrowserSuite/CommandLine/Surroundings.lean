import BrowserSuite.Config.Config
import BrowserSuite.Files.Request
import BrowserSuite.Report.Report
import BrowserSuite.Store

/-!
# What the program asks of its surroundings

Besides files these are the time, somewhere to print, and browsers to run suites
in.
-/

namespace BrowserSuite.CommandLine

/-- A request of the program. -/
inductive Request where
  | file (r : FileRequest)
  /-- Prints a text as it is. -/
  | print (text : String)
  | now
  /-- Runs suites as a configuration says, beginning with a store. -/
  | runSuites (config : Config) (suites : List Suite) (store : Store)

/-- What a request is answered with. -/
abbrev Request.Reply : Request → Type
  | .file r => r.Reply
  | .print _ => Unit
  | .now => Moment
  | .runSuites .. => Report

/-- Why the program could not do what it was told, and what led to that. -/
structure Failure where
  message : String
  causes : List String
  deriving DecidableEq, Repr

namespace Failure

/-- A text of which every line but the first one is moved to the right. -/
def indented (blanks : String) (text : String) : String :=
  Text.replace "\n" ("\n" ++ blanks) text

/-- The causes of a failure: one by itself, several with numbers. -/
def causeLines : List String → List String
  | [cause] => ["    " ++ indented "    " cause]
  | causes => causes.zipIdx.map fun (cause, i) =>
    let number := toString i
    String.ofList (List.replicate (5 - number.length) ' ') ++ number ++ ": " ++
      indented "       " cause

/-- A failure as it is shown. -/
def text (f : Failure) : String :=
  let causes := if f.causes.isEmpty then [] else ["", "Caused by:"] ++ causeLines f.causes
  Text.join "\n" (("Error: " ++ f.message) :: causes) ++ "\n"

end Failure

/-- A program on its surroundings that ends with a value or a failure. -/
abbrev Activity := ExceptT Failure (Program Request.Reply)

namespace Activity

/-- Asks a request. -/
def request (r : Request) : Activity r.Reply :=
  ExceptT.mk (Program.ask r fun reply => .done (.ok reply))

/-- Prints a text. -/
def print (text : String) : Activity Unit := request (.print text)

/-- Does with the files of the surroundings what a program on files does. -/
def fileProgram {α : Type} : Program FileRequest.Reply α → Program Request.Reply α
  | .done a => .done a
  | .ask r next => .ask (.file r) fun reply => fileProgram (next reply)

/-- Does a task on files, whose errors become failures. -/
def onFiles {ε α : Type} (failure : ε → Failure) (task : FileTask ε α) : Activity α :=
  ExceptT.mk (do return (← fileProgram task.run).mapError failure)

end Activity

end BrowserSuite.CommandLine
