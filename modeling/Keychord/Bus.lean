import Keychord.KeyEvent

/-!
# The state of an event bus

A bus hands events to listeners in the order in which they were added. While an event is
being delivered the listeners stay as they are: additions and removals wait, and so do
events emitted meanwhile. When the event has reached every listener, the removals and then
the additions are carried out.

This module holds the state and the single steps on it. Which listener is called when, what
listeners do, and what follows when one that owns subscriptions is dropped, is not decided here.
-/
namespace Keychord

/-- The number that a listener is given when it is added. -/
structure ListenerId where
  number : Nat
  deriving DecidableEq

def ListenerId.display (id : ListenerId) : String := "ListenerId(" ++ id.number.repr ++ ")"

/-- A listener on the bus: its number, and what tells it from others. -/
structure Listener (β : Type) where
  id : ListenerId
  body : β

/-- A bus. Its next number is never used up here: what is said of buses is meant for runs in
which fewer than 2^64 listeners are added. -/
structure Bus (ε β : Type) where
  listeners : List (Listener β) := []
  nextId : Nat := 0
  emitting : Bool := false
  queue : List ε := []
  additions : List (Listener β) := []
  removals : List ListenerId := []

/-- What can be seen of a bus from outside. -/
structure BusView where
  count : Nat
  emitting : Bool
  deriving DecidableEq

def BusView.display (v : BusView) : String :=
  "KeyboardBus \x7b listeners: " ++ v.count.repr ++ ", emitting: " ++
    (if v.emitting then "true" else "false") ++ " \x7d"

namespace Bus

variable {ε β : Type}

def empty : Bus ε β := {}

/-- Gives the next number to a listener. It joins the others now or, during a delivery, at
the end of the round. -/
def add (body : β) (bus : Bus ε β) : ListenerId × Bus ε β :=
  let id : ListenerId := ⟨bus.nextId⟩
  if bus.emitting then
    (id, { bus with nextId := bus.nextId + 1, additions := bus.additions ++ [⟨id, body⟩] })
  else
    (id, { bus with nextId := bus.nextId + 1, listeners := bus.listeners ++ [⟨id, body⟩] })

/-- Takes a listener off the bus. During a delivery it stays in its place until the end of
the round, but is noted down, and an addition that waits is dropped. -/
def remove (id : ListenerId) (bus : Bus ε β) : Bus ε β :=
  if bus.emitting then
    { bus with
      additions := bus.additions.filter (·.id ≠ id)
      removals := bus.removals ++ [id] }
  else { bus with listeners := bus.listeners.filter (·.id ≠ id) }

@[simp] theorem nextId_add (bus : Bus ε β) (body : β) :
    (bus.add body).2.nextId = bus.nextId + 1 := by
  unfold add
  split <;> rfl

@[simp] theorem emitting_add (bus : Bus ε β) (body : β) :
    (bus.add body).2.emitting = bus.emitting := by
  unfold add
  split <;> rfl

@[simp] theorem queue_add (bus : Bus ε β) (body : β) : (bus.add body).2.queue = bus.queue := by
  unfold add
  split <;> rfl

@[simp] theorem nextId_remove (bus : Bus ε β) (id : ListenerId) :
    (bus.remove id).nextId = bus.nextId := by
  unfold remove
  split <;> rfl

@[simp] theorem emitting_remove (bus : Bus ε β) (id : ListenerId) :
    (bus.remove id).emitting = bus.emitting := by
  unfold remove
  split <;> rfl

@[simp] theorem queue_remove (bus : Bus ε β) (id : ListenerId) :
    (bus.remove id).queue = bus.queue := by
  unfold remove
  split <;> rfl

/-- Lets an event wait for its delivery. -/
def enqueue (e : ε) (bus : Bus ε β) : Bus ε β := { bus with queue := bus.queue ++ [e] }

/-- Carries out the removals that waited for the end of the round. -/
def retire (bus : Bus ε β) : Bus ε β :=
  { bus with
    listeners := bus.listeners.filter (fun l => !bus.removals.contains l.id)
    removals := [] }

/-- Lets the additions that waited join the others. -/
def join (bus : Bus ε β) : Bus ε β :=
  { bus with listeners := bus.listeners ++ bus.additions, additions := [] }

/-- Carries out the removals and then the additions that waited for the end of the round. -/
def settle (bus : Bus ε β) : Bus ε β := bus.retire.join

/-- The listeners that count: during a delivery only those that wait to be added. -/
def count (bus : Bus ε β) : Nat :=
  (if bus.emitting then 0 else bus.listeners.length) + bus.additions.length

def view (bus : Bus ε β) : BusView := ⟨bus.count, bus.emitting⟩

/-- The numbers of the listeners on the bus and then of those that wait to be added. -/
def ids (bus : Bus ε β) : List ListenerId := (bus.listeners ++ bus.additions).map Listener.id

end Bus
end Keychord
