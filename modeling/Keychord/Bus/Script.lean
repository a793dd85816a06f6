import Keychord.Bus.Run
import Keychord.Shortcuts

/-!
# Scripted listeners

Listeners described by data: what they do is a list of actions that name other listeners by
label, so a whole run of a bus can be written down. A plain listener follows rules, each for
one key label or for every event, some of them a limited number of times. The other kind is
a registry of shortcuts, whose actions are scripted in turn. Everything that is done is
logged in plain lines.
-/
namespace Keychord.Bus.Script

inductive Action where
  | add (label listener : String)
  | subscribe (label listener : String)
  | remove (label : String)
  | unsubscribe (label : String)
  | drop (label : String)
  | emit (e : KeyEvent)
  | debug

/-- What a plain listener does when an event with this label arrives, or any event if none
is given, for the first `limit` times, or every time if there is none. -/
structure Rule where
  label : Option String := none
  limit : Option Nat := none
  actions : List Action

inductive Behaviour where
  | plain (rules : List Rule)
  | shortcuts (platform : Platform) (entries : List (String × List Action))

/-- A scripted listener on the bus. Each has a number of its own, also if several were added
with one behaviour under one label. -/
structure Actor where
  number : Nat
  label : String
  behaviour : Behaviour

/-- What the scripted listeners share: which listener and which subscription a label names,
how often each rule of each actor was followed, and the log, latest line first. -/
structure Stage where
  actors : Nat := 0
  named : List (String × ListenerId) := []
  held : List (String × Subscription) := []
  followed : List ((Nat × Nat) × Nat) := []
  log : List String := []

namespace Stage

/-- The list with the key bound to a new value. -/
def bind {κ ν : Type} [BEq κ] (key : κ) (value : ν) (l : List (κ × ν)) : List (κ × ν) :=
  (key, value) :: l.filter (!·.1 == key)

def timesFollowed (actor rule : Nat) (s : Stage) : Nat :=
  (s.followed.lookup (actor, rule)).getD 0

end Stage

abbrev Play := Program Stage KeyEvent Actor

def say (line : String) : Play Unit := .update fun s => { s with log := line :: s.log }

/-- A new actor with this behaviour. -/
def engage (label : String) (behaviour : Behaviour) : Play Actor := do
  let stage ← Program.load
  .store { stage with actors := stage.actors + 1 }
  return ⟨stage.actors, label, behaviour⟩

/-- From now on the label names this listener. -/
def name (label : String) (id : ListenerId) : Play Unit :=
  .update fun s => { s with named := Stage.bind label id s.named }

/-- Takes out the subscription held under a label. -/
def takeHeld (label : String) : Play (Option Subscription) := do
  let stage ← Program.load
  .store { stage with held := stage.held.filter (!·.1 == label) }
  return stage.held.lookup label

def releaseAny : Option Subscription → Play Unit
  | some s => .release s
  | none => return ()

/-- Gives up the subscription held under a label, after logging whether there is one. -/
def giveUp (verb label : String) : Play Unit := do
  let held ← takeHeld label
  say (verb ++ " " ++ label ++ if held.isSome then " true" else " false")
  releaseAny held

/-- The listeners that a script can add, by name. -/
abbrev Cast := List (String × Behaviour)

/-- A name that is not in the cast belongs to a listener that does nothing. -/
def Cast.behaviour (cast : Cast) (listener : String) : Behaviour :=
  (cast.lookup listener).getD (.plain [])

/-- What an action does. -/
def play (cast : Cast) : Action → Play Unit
  | .add label listener => do
    let actor ← engage label (cast.behaviour listener)
    let id ← Program.add actor
    say ("add " ++ label ++ " " ++ id.display)
    name label id
  | .subscribe label listener => do
    let actor ← engage label (cast.behaviour listener)
    let subscription ← Program.subscribe actor
    say ("subscribe " ++ label ++ " " ++ subscription.display)
    name label subscription.id
    let before ← takeHeld label
    .update fun s => { s with held := (label, subscription) :: s.held }
    releaseAny before
  | .remove label => do
    match (← Program.load).named.lookup label with
    | some id =>
      say ("remove " ++ label ++ " Some(" ++ id.display ++ ")")
      .remove id
    | none => say ("remove " ++ label ++ " None")
  | .unsubscribe label => giveUp "unsubscribe" label
  | .drop label => giveUp "drop" label
  | .emit e => do
    say ("emit " ++ e.display)
    .emit e
  | .debug => do say (← Program.look).display

/-- Logs that an event has reached a listener or one of its shortcuts. -/
def sayReached (who : String) (e : KeyEvent) : Play Unit := do
  let view ← Program.look
  say (who ++ " <- " ++ e.display ++ " (" ++ view.count.repr ++ ")")

/-- Follows the `n`-th rule of an actor if it applies. -/
def follow (cast : Cast) (actor n : Nat) (rule : Rule) (e : KeyEvent) : Play Unit := do
  let stage ← Program.load
  let times := stage.timesFollowed actor n
  if rule.label.all (· == e.label) && rule.limit.all (times < ·) then
    .store { stage with followed := Stage.bind (actor, n) (times + 1) stage.followed }
    rule.actions.forM (play cast)

/-- The registry of these shortcuts, registered in turn. Each keeps its pattern. -/
def registry (entries : List (String × List Action)) : Shortcuts (String × List Action) :=
  entries.foldl (fun s entry => s.register entry.1 entry) .empty

/-- What a scripted listener does with an event. -/
def respond (cast : Cast) (actor : Actor) (e : KeyEvent) : Play Unit :=
  match actor.behaviour with
  | .plain rules => do
    sayReached actor.label e
    rules.zipIdx.forM fun (rule, n) => follow cast actor.number n rule e
  | .shortcuts platform entries => do
    let act (entry : String × List Action) (e : KeyEvent) : Play Unit := do
      sayReached (actor.label ++ "[" ++ entry.1 ++ "]") e
      entry.2.forM (play cast)
    discard <| (registry entries).dispatch platform act e

/-- What one step of a script shows: the lines it logged and the bus after it. -/
structure Scene where
  log : List String
  view : BusView

/-- Runs a script step by step on a bus. The second result is the bus after all
subscriptions still held have been released. -/
def run (cast : Cast) (limit : Nat) (actions : List Action) : Option (List Scene × BusView) := do
  let start : World Stage KeyEvent Actor := { memory := {} }
  let (w, scenes) ← actions.foldlM (fun (w, scenes) action => do
    let w := { w with memory := { w.memory with log := [] } }
    let (_, w) ← ((play cast action).perform (respond cast) limit w).toOption
    some (w, ⟨w.memory.log.reverse, w.bus.view⟩ :: scenes)) (start, [])
  let letGo : Play Unit := w.memory.held.forM fun entry => .release entry.2
  let (_, w) ← (letGo.perform (respond cast) limit w).toOption
  return (scenes.reverse, w.bus.view)

end Keychord.Bus.Script
