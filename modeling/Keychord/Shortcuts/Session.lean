import Keychord.Shortcuts

/-!
# The history of a registry

A session is a registry in use. Every registration brings a new callback; callbacks are
numbered in the order of their registration, and the session records which of them was
called with which event. It also counts how often the platform was asked for.
-/
namespace Keychord.Shortcuts

structure Session where
  shortcuts : Shortcuts Nat := {}
  callbacks : Nat := 0
  calls : List (Nat × KeyEvent) := []
  asked : Nat := 0

namespace Session

/-- Registers a new callback for the pattern. -/
def register (pattern : String) (s : Session) : Session :=
  { s with shortcuts := s.shortcuts.register pattern s.callbacks, callbacks := s.callbacks + 1 }

def unregister (pattern : String) (s : Session) : Bool × Session :=
  let (removed, shortcuts) := s.shortcuts.unregister pattern
  (removed, { s with shortcuts })

def matching (p : Platform) (e : KeyEvent) (s : Session) :
    Except InvalidAccelerator (List String) × Session :=
  let answer := s.shortcuts.matching e
  (answer.on p, { s with asked := s.asked + answer.asks p })

/-- Calls a callback, which is to say that the call is recorded. -/
def call (callback : Nat) (e : KeyEvent) : StateM (List (Nat × KeyEvent)) Unit :=
  modify (· ++ [(callback, e)])

def dispatch (p : Platform) (e : KeyEvent) (s : Session) :
    Except InvalidAccelerator Nat × Session :=
  let (answer, calls) := (s.shortcuts.dispatch p call e).run s.calls
  (answer, { s with calls, asked := s.asked + (s.shortcuts.hits e).asks p })

/-- How often a callback has been called. -/
def callCount (callback : Nat) (s : Session) : Nat := s.calls.countP (·.1 == callback)

end Session
end Keychord.Shortcuts
