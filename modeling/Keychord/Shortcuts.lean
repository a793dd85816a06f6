import Keychord.Accelerator

/-!
# Registries of shortcuts

A registry is an ordered list of patterns with an action each. Patterns are kept as they
were written and read anew for every event. Registering a pattern that is present replaces
its action in place. When an event is dispatched, every pattern is checked before the first
action is taken, so that one malformed pattern keeps all actions from being taken.

What an action is, and where taking it has its effect, is left open.
-/
namespace Keychord

/-- A pattern and what is to be done when an event triggers it. -/
structure Shortcut (κ : Type) where
  pattern : String
  action : κ

structure Shortcuts (κ : Type) where
  entries : List (Shortcut κ) := []

namespace Shortcuts

variable {κ : Type}

def empty : Shortcuts κ := {}

def patterns (s : Shortcuts κ) : List String := s.entries.map Shortcut.pattern

def size (s : Shortcuts κ) : Nat := s.entries.length

def isEmpty (s : Shortcuts κ) : Bool := s.entries.isEmpty

/-- The registry as text: its patterns, quoted. -/
def display (s : Shortcuts κ) : String :=
  "Shortcuts \x7b patterns: [" ++ ", ".intercalate (s.patterns.map Text.quote) ++ "] \x7d"

/-- Puts the shortcut in the place of the first one with its pattern, or else at the end. -/
def place (shortcut : Shortcut κ) : List (Shortcut κ) → List (Shortcut κ)
  | [] => [shortcut]
  | entry :: entries =>
    if entry.pattern = shortcut.pattern then shortcut :: entries
    else entry :: place shortcut entries

/-- Binds the pattern to an action. -/
def register (pattern : String) (action : κ) (s : Shortcuts κ) : Shortcuts κ :=
  ⟨place ⟨pattern, action⟩ s.entries⟩

/-- Takes the pattern out, and tells whether it was there. -/
def unregister (pattern : String) (s : Shortcuts κ) : Bool × Shortcuts κ :=
  let kept := s.entries.filter (·.pattern ≠ pattern)
  (kept.length ≠ s.entries.length, ⟨kept⟩)

/-- The patterns of these entries that the event triggers. -/
def matchingIn (e : KeyEvent) :
    List (Shortcut κ) → Inquiry (Except InvalidAccelerator (List String))
  | [] => .done (.ok [])
  | entry :: entries => do
    match ← e.triggers entry.pattern with
    | .error problem => return .error problem
    | .ok hit =>
      let others ← matchingIn e entries
      return others.map fun patterns => if hit then entry.pattern :: patterns else patterns

/-- The patterns that the event triggers, in order. -/
def matching (e : KeyEvent) (s : Shortcuts κ) : Inquiry (Except InvalidAccelerator (List String)) :=
  matchingIn e s.entries

/-- The places, from the `n`-th on, of those entries that the event triggers. -/
def hitsFrom (e : KeyEvent) (n : Nat) :
    List (Shortcut κ) → Inquiry (Except InvalidAccelerator (List Nat))
  | [] => .done (.ok [])
  | entry :: entries => do
    match ← e.triggers entry.pattern with
    | .error problem => return .error problem
    | .ok hit =>
      let others ← hitsFrom e (n + 1) entries
      return others.map fun places => if hit then n :: places else places

/-- The places of the shortcuts that the event triggers, in order. -/
def hits (e : KeyEvent) (s : Shortcuts κ) : Inquiry (Except InvalidAccelerator (List Nat)) :=
  hitsFrom e 0 s.entries

/-- Takes the action of the shortcut at each of the places, in turn. -/
def takeActions {m : Type → Type} [Monad m] (take : κ → KeyEvent → m Unit) (e : KeyEvent)
    (s : Shortcuts κ) (places : List Nat) : m Unit :=
  places.forM fun place =>
    match s.entries[place]? with
    | some entry => take entry.action e
    | none => pure ()

/-- Takes the actions at the places that were found, and counts them. If a pattern is malformed
instead, no action is taken. -/
def conclude {m : Type → Type} [Monad m] (take : κ → KeyEvent → m Unit) (e : KeyEvent)
    (s : Shortcuts κ) : Except InvalidAccelerator (List Nat) → m (Except InvalidAccelerator Nat)
  | .error problem => pure (.error problem)
  | .ok places => do
    takeActions take e s places
    return .ok places.length

/-- Takes the action of every shortcut that the event triggers, on a platform that does not
change. -/
def dispatch {m : Type → Type} [Monad m] (p : Platform) (take : κ → KeyEvent → m Unit)
    (e : KeyEvent) (s : Shortcuts κ) : m (Except InvalidAccelerator Nat) :=
  s.conclude take e ((s.hits e).on p)

/-- The same with a detector, which is asked anew whenever a pattern needs the platform. -/
def dispatchVia {m : Type → Type} [Monad m] (detect : m Platform) (take : κ → KeyEvent → m Unit)
    (e : KeyEvent) (s : Shortcuts κ) : m (Except InvalidAccelerator Nat) := do
  s.conclude take e (← (s.hits e).via detect)

theorem dispatchVia_pure {m : Type → Type} [Monad m] [LawfulMonad m] (p : Platform)
    (take : κ → KeyEvent → m Unit) (e : KeyEvent) (s : Shortcuts κ) :
    s.dispatchVia (pure p) take e = s.dispatch p take e := by
  rw [dispatchVia, Inquiry.via_pure, pure_bind, dispatch]

end Shortcuts
end Keychord
