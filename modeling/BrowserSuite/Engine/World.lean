import BrowserSuite.Browser.Scripted
import BrowserSuite.Engine.Clock
import BrowserSuite.Engine.Task

/-!
# A world with one session

Everything that a task can see and change when it runs alone: the scripted
browser, the clock, the cancellation of the run, the store and the log.  A task
is run by answering its requests one after the other; only pauses and delayed
calls let time pass.

`Site` is the part of a world that several workers share, so that the same
answers serve a pool of workers.
-/

namespace BrowserSuite

/-- The browser, the clock and the cancellation, and the state of the random
draws. -/
structure Site where
  browser : Scripted
  clock : Nat
  /-- When the run is going to be cancelled, if it is. -/
  cancelAt : Option Nat
  cancelled : Bool
  seed : Nat
  deriving Inhabited

namespace Site

/-- The site of a browser when nothing has happened yet. -/
def start (browser : Scripted) (cancelAt : Option Nat) (seed : Nat) : Site :=
  ⟨browser, 0, cancelAt, cancelAt == some 0, seed⟩

/-- The site at a later time.  The cancellation that is due by then has been
made. -/
def advance (s : Site) (clock : Nat) : Site :=
  let due := match s.cancelAt with
    | some t => t ≤ clock
    | none => false
  { s with clock := clock, cancelled := s.cancelled || due }

/-- The site after a pause.  A pause of no time changes nothing. -/
def elapse (s : Site) (ms : Nat) : Site :=
  if ms = 0 then s else s.advance (Clock.after s.clock ms)

/-- The site after a pause until a time, which changes nothing if that time has come. -/
def elapseUntil (s : Site) (time : Nat) : Site :=
  if time ≤ s.clock then s else s.advance time

/-- The state of the random draws after one more draw. -/
def nextSeed (seed : Nat) : Nat :=
  (1442695040888963407 + 6364136223846793005 * seed) % Nat.pow 2 64

/-- The number below `maxDraw` that is drawn in a state. -/
def drawnFrom (seed : Nat) : Fin maxDraw :=
  ⟨seed / Nat.pow 2 16 % maxDraw, Nat.mod_lt _ (by decide)⟩

/-- A random number below `maxDraw`, and the site afterwards. -/
def drawNumber (s : Site) : Fin maxDraw × Site :=
  let seed := nextSeed s.seed
  (drawnFrom seed, { s with seed := seed })

/-- Counts a call and finds the rule that applies to it. -/
def startCall (s : Site) (op key : String) : Option Scripted.Rule × Site :=
  let (rule, browser) := s.browser.startCall op key
  (rule, { s with browser := browser })

/-- Ends a call after the delay of its rule: cancels the run if the rule says
so, and then carries out what the rule leaves of the call. -/
def endCall {α : Type} (s : Site) (rule : Option Scripted.Rule)
    (proceed : Scripted → Ending BrowserError α × Scripted) : Ending BrowserError α × Site :=
  let cancels := match rule with
    | some r => r.cancels
    | none => false
  let (reply, browser) := Scripted.endCall rule s.browser proceed
  (reply, { s with browser := browser, cancelled := s.cancelled || cancels })

end Site

/-- The delay of the rule that applies to a call. -/
def ruleDelay : Option Scripted.Rule → Nat
  | some r => r.delay
  | none => 0

/-- A site with the store and the log of one worker. -/
structure World where
  site : Site
  store : Store
  log : List String
  deriving Inhabited

namespace World

/-- Answers a request of a task. -/
def answer (w : World) : (r : Effect Handle) → r.Reply Handle × World
  | .call c =>
    let (rule, site) := w.site.startCall (Scripted.opOf c) (Scripted.keyOf c)
    let (reply, site) := (site.elapse (ruleDelay rule)).endCall rule (·.perform c)
    (reply, { w with site := site })
  | .sleep ms => ((), { w with site := w.site.elapse ms })
  | .sleepUntil time => ((), { w with site := w.site.elapseUntil time })
  | .now => (w.site.clock, w)
  | .isCancelled => (w.site.cancelled, w)
  | .frameBound => (w.site.browser.frameBound, w)
  | .readStore => (w.store, w)
  | .setVariable key value => ((), { w with store := w.store.set key value })
  | .log message => ((), { w with log := w.log ++ [message] })
  | .draw =>
    let (n, site) := w.site.drawNumber
    (n, { w with site := site })

/-- Runs a task to its end. -/
def run {ε α : Type} (w : World) (t : Task Handle ε α) : Ending ε α × World :=
  Program.run answer t w

end World

end BrowserSuite
