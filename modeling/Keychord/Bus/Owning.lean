import Keychord.Bus.Run

/-!
# Listeners that own subscriptions

A listener may own subscriptions, of itself or of others. When it is taken off it is dropped,
and what it owns is released. Who owns what may change in the course of a run and is read off
the memory.

Listeners that are taken off during a delivery are dropped at the end of the round. The removals
that waited have been taken out by then, so what is released now waits on, until the end of the
next round if there is one. A listener that is taken off from outside, or before it has joined,
is dropped at once. In the middle of this nobody else can be taken off: if such a listener owns a
subscription, the run is broken off.
-/
namespace Keychord.Bus

/-- Who is to be taken off by a request. -/
def Request.leaver? {σ ε β : Type} : Request σ ε β → Option ListenerId
  | remove id => some id
  | release s => some s.id
  | _ => none

namespace Owning

variable {σ ε β α : Type} (owns : σ → Listener β → List Subscription)

/-- The subscriptions that a listener owns, none but those that have been given out. -/
def owned (w : World σ ε β) (l : Listener β) : List Subscription :=
  (owns w.memory l).filter fun s => s.id.number < w.bus.nextId

/-- The listeners that are dropped at once when this one is taken off. -/
def droppedBy (id : ListenerId) (bus : Bus ε β) : List (Listener β) :=
  (if bus.emitting then bus.additions else bus.listeners).filter (·.id = id)

/-- Nobody who would be dropped at once owns a subscription. -/
def clear (w : World σ ε β) (id : ListenerId) : Bool :=
  (droppedBy id w.bus).all fun l => (owned owns w l).isEmpty

/-- Answers a request, if nobody has to be taken off in the middle of it. -/
def answer (w : World σ ε β) (r : Request σ ε β) :
    Except (World σ ε β) (r.Answer × World σ ε β) :=
  if r.leaver?.all (clear owns w) then .ok (w.answer r) else .error w

/-- Runs a program during a delivery. -/
def run : Program σ ε β α → World σ ε β → Except (World σ ε β) (α × World σ ε β)
  | .done a, w => .ok (a, w)
  | .request r next, w => do
    let (a, w) ← answer owns w r
    run (next a) w

/-- Releases a subscription that a listener has owned. -/
def letGo (w : World σ ε β) (s : Subscription) : Except (World σ ε β) (World σ ε β) :=
  if clear owns w s.id then .ok ({ w with bus := w.bus.remove s.id }.note (.released s.id))
  else .error w

/-- Ends a round: those who were taken off are dropped, and what they own is released, before
the additions join the others. -/
def close (e : ε) (w : World σ ε β) : Except (World σ ε β) (World σ ε β) := do
  let dropped := w.bus.listeners.filter fun l => w.bus.removals.contains l.id
  let w ← (dropped.flatMap (owned owns w)).foldlM (letGo owns) { w with bus := w.bus.retire }
  return { w with bus := w.bus.join }.note (.roundEnded e)

variable (respond : β → ε → Program σ ε β Unit)

/-- It is a listener's turn: it is called unless its removal has been noted down. -/
def turn (e : ε) (w : World σ ε β) (l : Listener β) : Except (World σ ε β) (World σ ε β) :=
  if w.bus.removals.contains l.id then .ok w
  else do
    let (_, w) ← run owns (respond l.body e) (w.note (.called l.id e))
    return w.note (.returned l.id)

/-- Delivers one event to the listeners on the bus. -/
def round (e : ε) (w : World σ ε β) : Except (World σ ε β) (World σ ε β) := do
  let w := w.note (.roundBegan e)
  close owns e (← w.bus.listeners.foldlM (turn owns respond e) w)

/-- Delivers the events that wait, at most `limit` of them. -/
def drain (limit : Nat) (w : World σ ε β) : Except (World σ ε β) (World σ ε β) :=
  match w.bus.queue, limit with
  | [], _ => .ok w
  | _ :: _, 0 => .error w
  | e :: queue, limit + 1 => do
    drain limit (← round owns respond e { w with bus := { w.bus with queue } })

/-- Emits an event from outside, and delivers it and all that follow from it. -/
def emit (limit : Nat) (e : ε) (w : World σ ε β) : Except (World σ ε β) (World σ ε β) := do
  let w := { w with bus := { w.bus with emitting := true } }.note (.emitted e)
  let w ← drain owns respond limit (← round owns respond e w)
  return { w with bus := { w.bus with emitting := false } }

/-- Runs a program from outside: an event it emits is delivered before it goes on. -/
def perform (limit : Nat) :
    Program σ ε β α → World σ ε β → Except (World σ ε β) (α × World σ ε β)
  | .done a, w => .ok (a, w)
  | .request (.emit e) next, w => do
    perform limit (next ()) (← emit owns respond limit e w)
  | .request r next, w => do
    let (a, w) ← answer owns w r
    perform limit (next a) w

end Owning
end Keychord.Bus
