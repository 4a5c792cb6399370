/-!
# Programs over requests

A program either is done with a result or asks a request and goes on with the
reply.  What a request does is not part of a program: a program is a tree, and
whoever runs it answers its requests.  The same program can so be run against a
scripted browser, stepped next to other programs in any order, or reasoned about
for every possible reply by induction on the tree.

A program has no infinite branch, so running it always ends.
-/

namespace BrowserSuite

/-- A program that asks requests of type `R`, where `r` is answered by a
`Reply r`, and ends with a result of type `α`. -/
inductive Program {R : Type} (Reply : R → Type) (α : Type) : Type where
  | done (result : α) : Program Reply α
  | ask (request : R) (next : Reply request → Program Reply α) : Program Reply α

namespace Program

variable {R : Type} {Reply : R → Type} {α β γ σ : Type}

/-- Goes on with `f` where a program is done. -/
def bind : Program Reply α → (α → Program Reply β) → Program Reply β
  | done a, f => f a
  | ask r next, f => ask r fun reply => (next reply).bind f

instance : Monad (Program Reply) where
  pure := done
  bind := bind

/-- Asks one request. -/
def request (r : R) : Program Reply (Reply r) := ask r done

/-- Runs a program against a state that answers every request and changes with
it. -/
def run (answer : σ → (r : R) → Reply r × σ) : Program Reply α → σ → α × σ
  | done a, s => (a, s)
  | ask r next, s =>
    let (reply, s) := answer s r
    run answer (next reply) s

@[simp] theorem bind_done (p : Program Reply α) : p.bind done = p := by
  induction p with
  | done a => rfl
  | ask r next ih => simp [bind, ih]

theorem bind_assoc (p : Program Reply α) (f : α → Program Reply β) (g : β → Program Reply γ) :
    (p.bind f).bind g = p.bind fun a => (f a).bind g := by
  induction p with
  | done a => rfl
  | ask r next ih => simp [bind, ih]

instance : LawfulMonad (Program Reply) :=
  LawfulMonad.mk' (Program Reply) bind_done (fun _ _ => rfl) bind_assoc

/-- A run goes through `bind`. -/
theorem run_bind (answer : σ → (r : R) → Reply r × σ) (p : Program Reply α)
    (f : α → Program Reply β) (s : σ) :
    (p.bind f).run answer s = (f (p.run answer s).1).run answer (p.run answer s).2 := by
  induction p generalizing s with
  | done a => rfl
  | ask r next ih => exact ih (answer s r).1 (answer s r).2

end Program

end BrowserSuite
