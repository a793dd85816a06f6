import Keychord.Bus.Program

/-!
# Running a bus

A bus runs in rounds, one for each event that was emitted. A round calls the listeners in
order, leaving out those whose removal has been noted down by the time it is their turn, and
then settles the bus. An event emitted from outside starts a round; further rounds follow
until no event waits. An event emitted from inside a round only joins the queue, so rounds
never overlap.

Listeners that keep emitting may keep a bus busy for ever. The number of rounds that one
emission may add is therefore bounded by an argument. A run beyond it is broken off between two
rounds, and its error is the world it has come to.

A run keeps a journal of everything that happened, each entry with the bus as it was right
after.

In the runs of this module listeners own no subscriptions, so that nothing else happens when a
listener is dropped. For those that do see `Keychord.Bus.Owning`.
-/
namespace Keychord.Bus

inductive Happening (ε : Type) where
  | added (id : ListenerId)
  | subscribed (id : ListenerId)
  | removed (id : ListenerId)
  | released (id : ListenerId)
  | emitted (e : ε)
  | roundBegan (e : ε)
  | called (id : ListenerId) (e : ε)
  | returned (id : ListenerId)
  | roundEnded (e : ε)

/-- Something that happened, and the bus right after it. -/
structure Moment (ε β : Type) where
  happening : Happening ε
  bus : Bus ε β

/-- A bus in use: its state, the memory of its listeners, and the journal, latest entry
first. -/
structure World (σ ε β : Type) where
  bus : Bus ε β := {}
  memory : σ
  journal : List (Moment ε β) := []

variable {σ ε β α : Type}

namespace World

/-- Enters what happened into the journal. -/
def note (h : Happening ε) (w : World σ ε β) : World σ ε β :=
  { w with journal := ⟨h, w.bus⟩ :: w.journal }

/-- What happened, in order. -/
def happenings (w : World σ ε β) : List (Happening ε) := (w.journal.map Moment.happening).reverse

/-- Answers a request. An event only joins the queue. -/
def answer (w : World σ ε β) : (r : Request σ ε β) → r.Answer × World σ ε β
  | .load => (w.memory, w)
  | .store memory => ((), { w with memory })
  | .add body =>
    let (id, bus) := w.bus.add body
    (id, { w with bus }.note (.added id))
  | .subscribe body =>
    let (id, bus) := w.bus.add body
    (⟨id⟩, { w with bus }.note (.subscribed id))
  | .remove id => ((), { w with bus := w.bus.remove id }.note (.removed id))
  | .release s => ((), { w with bus := w.bus.remove s.id }.note (.released s.id))
  | .emit e => ((), { w with bus := w.bus.enqueue e }.note (.emitted e))
  | .look => (w.bus.view, w)

end World

/-- Runs a program during a delivery. -/
def Program.run : Program σ ε β α → World σ ε β → α × World σ ε β
  | .done a, w => (a, w)
  | .request r next, w => (next (w.answer r).1).run (w.answer r).2

namespace World

variable (respond : β → ε → Program σ ε β Unit)

/-- It is a listener's turn: it is called unless its removal has been noted down. -/
def turn (e : ε) (w : World σ ε β) (l : Listener β) : World σ ε β :=
  if w.bus.removals.contains l.id then w
  else ((respond l.body e).run (w.note (.called l.id e))).2.note (.returned l.id)

/-- Delivers one event to the listeners on the bus. -/
def round (e : ε) (w : World σ ε β) : World σ ε β :=
  let w := w.note (.roundBegan e)
  let w := w.bus.listeners.foldl (turn respond e) w
  { w with bus := w.bus.settle }.note (.roundEnded e)

/-- Delivers the events that wait, at most `limit` of them. -/
def drain (limit : Nat) (w : World σ ε β) : Except (World σ ε β) (World σ ε β) :=
  match w.bus.queue, limit with
  | [], _ => .ok w
  | _ :: _, 0 => .error w
  | e :: queue, limit + 1 => drain limit ({ w with bus := { w.bus with queue } }.round respond e)

/-- Emits an event from outside, and delivers it and all that follow from it. -/
def emit (limit : Nat) (e : ε) (w : World σ ε β) : Except (World σ ε β) (World σ ε β) :=
  let w := { w with bus := { w.bus with emitting := true } }.note (.emitted e)
  (drain respond limit (w.round respond e)).map fun w =>
    { w with bus := { w.bus with emitting := false } }

end World

/-- Runs a program from outside: an event it emits is delivered before it goes on. -/
def Program.perform (respond : β → ε → Program σ ε β Unit) (limit : Nat) :
    Program σ ε β α → World σ ε β → Except (World σ ε β) (α × World σ ε β)
  | .done a, w => .ok (a, w)
  | .request (.emit e) next, w =>
    match w.emit respond limit e with
    | .ok w => (next ()).perform respond limit w
    | .error w => .error w
  | .request r next, w => (next (w.answer r).1).perform respond limit (w.answer r).2

/-- The world that a run has come to, at its end or where it was broken off. -/
def World.reached : Except (World σ ε β) (α × World σ ε β) → World σ ε β
  | .ok (_, w) => w
  | .error w => w

end Keychord.Bus
