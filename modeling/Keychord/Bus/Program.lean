import Keychord.Bus

/-!
# What a listener does

A listener answers an event with a program: a tree of requests to the bus, where what comes
next may depend on the answer to the request before. The listeners of a bus share a memory,
in which each may keep what it has to remember from one event to the next. A program is a
finite tree; that it ends is part of its type.

Subscriptions, too, are kept in the memory, and released by requests only. That a listener may
own subscriptions, which are released when it is dropped, is left to `Keychord.Bus.Owning`.
-/
namespace Keychord.Bus

/-- A listener's hold on its own place on the bus, given up by releasing it. -/
structure Subscription where
  id : ListenerId
  deriving DecidableEq

def Subscription.display (s : Subscription) : String :=
  "Subscription \x7b id: Some(" ++ s.id.display ++ ") \x7d"

/-- One request: of the memory, to change who listens, to emit an event, or for a look at
the bus. Here `σ` is the memory, `ε` the events and `β` the listeners' bodies. -/
inductive Request (σ ε β : Type) where
  | load
  | store (memory : σ)
  | add (body : β)
  | subscribe (body : β)
  | remove (id : ListenerId)
  | release (subscription : Subscription)
  | emit (e : ε)
  | look

/-- What a request is answered with. -/
def Request.Answer {σ ε β : Type} : Request σ ε β → Type
  | load => σ
  | add _ => ListenerId
  | subscribe _ => Subscription
  | look => BusView
  | store _ | remove _ | release _ | emit _ => Unit

inductive Program (σ ε β α : Type) where
  | done (a : α)
  | request (r : Request σ ε β) (next : r.Answer → Program σ ε β α)

namespace Program

variable {σ ε β α γ : Type}

def bind : Program σ ε β α → (α → Program σ ε β γ) → Program σ ε β γ
  | done a, f => f a
  | request r next, f => request r fun answer => (next answer).bind f

instance : Monad (Program σ ε β) where
  pure := done
  bind := bind

/-- A single request. -/
def ask (r : Request σ ε β) : Program σ ε β r.Answer := request r done

def load : Program σ ε β σ := ask .load
def store (memory : σ) : Program σ ε β Unit := ask (.store memory)
def add (body : β) : Program σ ε β ListenerId := ask (.add body)
def subscribe (body : β) : Program σ ε β Subscription := ask (.subscribe body)
def remove (id : ListenerId) : Program σ ε β Unit := ask (.remove id)
def release (s : Subscription) : Program σ ε β Unit := ask (.release s)
def emit (e : ε) : Program σ ε β Unit := ask (.emit e)
def look : Program σ ε β BusView := ask .look

/-- Changes the memory. -/
def update (f : σ → σ) : Program σ ε β Unit := do store (f (← load))

@[simp] theorem pure_eq_done (a : α) : (pure a : Program σ ε β α) = done a := rfl

@[simp] theorem done_bind (a : α) (f : α → Program σ ε β γ) : (done a >>= f) = f a := rfl

@[simp] theorem request_bind (r : Request σ ε β) (next : r.Answer → Program σ ε β α)
    (f : α → Program σ ε β γ) :
    (request r next >>= f) = request r fun answer => next answer >>= f := rfl

instance : LawfulMonad (Program σ ε β) :=
  LawfulMonad.mk' (Program σ ε β)
    (fun q => by
      induction q with
      | done a => rfl
      | request r next ih => exact congrArg (request r) (funext ih))
    (fun _ _ => rfl)
    (fun q f g => by
      induction q with
      | done a => rfl
      | request r next ih => exact congrArg (request r) (funext ih))

end Program
end Keychord.Bus
