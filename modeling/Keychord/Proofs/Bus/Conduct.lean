import Keychord.Proofs.Bus.Calls

/-!
# Listeners that go by what they have heard

A listener of this kind decides what to do by the events that have reached it, in their order, and
by nothing else: not by the numbers that listeners are given, nor by how many there are. What it does
is a list of deeds. Deeds speak of listeners by names, which all share; a name keeps the listener
that was added under it last, with its subscription if it has one.

A run of such listeners may be repeated with some of them absent. Whenever an absent listener would
be added, the name is given up all the same, but the bus hears nothing of it; and a deed that would
take the absent listener off finds nothing under the name.
-/
namespace Keychord.Bus

/-- What a listener can do. A role is a way to go by what was heard. -/
inductive Deed (ν ε β : Type) where
  | add (name : ν) (role : β)
  | subscribe (name : ν) (role : β)
  | remove (name : ν)
  | release (name : ν)
  | emit (e : ε)

/-- A listener in a role. Its number tells it from others in the same role. -/
structure Member (β : Type) where
  number : ℕ
  role : β

/-- What the listeners share: how many there have been, who goes by a name, which subscription is
held under it, and who has heard what. -/
structure Notes (ν ε : Type) where
  made : ℕ := 0
  named : ν → Option ListenerId := fun _ => none
  held : ν → Option Subscription := fun _ => none
  heard : List (ℕ × ε) := []

variable {ν ε β : Type}

/-- The events that have reached the member with this number. -/
def heardBy (number : ℕ) (heard : List (ℕ × ε)) : List ε :=
  heard.filterMap fun x => if x.1 = number then some x.2 else none

/-- A run in which listeners go by what they have heard. -/
abbrev Play (ν ε β α : Type) := Program (Notes ν ε) ε (Member β) α

def removeAny : Option ListenerId → Play ν ε β Unit
  | some id => .remove id
  | none => pure ()

def releaseAny : Option Subscription → Play ν ε β Unit
  | some s => .release s
  | none => pure ()

/-- Lets nobody be absent. -/
def nobody : Member β → Bool := fun _ => false

section Enact

variable [DecidableEq ν] (absent : Member β → Bool)

/-- Lets a new member join the bus, unless it is absent. It gets the next number in any case. -/
def engage {κ : Type} (join : Member β → Play ν ε β κ) (role : β) : Play ν ε β (Option κ) := do
  let notes ← Program.load
  Program.store { notes with made := notes.made + 1 }
  if absent ⟨notes.made, role⟩ then return none else return some (← join ⟨notes.made, role⟩)

/-- Does a deed, where some listeners are absent. A subscription that was held under a name is
released when another listener is subscribed under it. -/
def enact : Deed ν ε β → Play ν ε β Unit
  | .add name role => do
    let id ← engage absent .add role
    .update fun notes => { notes with named := Function.update notes.named name id }
  | .subscribe name role => do
    let s ← engage absent .subscribe role
    let notes ← Program.load
    Program.store { notes with
      named := Function.update notes.named name (s.map Subscription.id)
      held := Function.update notes.held name s }
    releaseAny (notes.held name)
  | .remove name => do removeAny ((← Program.load).named name)
  | .release name => do
    let notes ← Program.load
    Program.store { notes with held := Function.update notes.held name none }
    releaseAny (notes.held name)
  | .emit e => .emit e

/-- What a member does with an event. It takes the event down first. -/
def goBy (conduct : β → List ε → List (Deed ν ε β)) (m : Member β) (e : ε) :
    Play ν ε β Unit := do
  let notes ← Program.load
  let heard := notes.heard ++ [(m.number, e)]
  Program.store { notes with heard }
  (conduct m.role (heardBy m.number heard)).forM (enact absent)

lemma run_enactAll_cons (d : Deed ν ε β) (deeds : List (Deed ν ε β))
    (w : World (Notes ν ε) ε (Member β)) :
    ((d :: deeds).forM (enact absent)).run w =
      (deeds.forM (enact absent)).run ((enact absent d).run w).2 :=
  Program.run_bind _ _ w

/-- The event has reached the member and is taken down. -/
def World.hear (m : Member β) (e : ε) (w : World (Notes ν ε) ε (Member β)) :
    World (Notes ν ε) ε (Member β) :=
  { w with memory := { w.memory with heard := w.memory.heard ++ [(m.number, e)] } }

lemma run_goBy (conduct : β → List ε → List (Deed ν ε β)) (m : Member β) (e : ε)
    (w : World (Notes ν ε) ε (Member β)) :
    (goBy absent conduct m e).run w =
      ((conduct m.role (heardBy m.number (w.hear m e).memory.heard)).forM (enact absent)).run
        (w.hear m e) :=
  rfl

end Enact

/-- No request is to emit an event. -/
def Program.Silent {σ α : Type} : Program σ ε β α → Prop
  | .done _ => True
  | .request r next => r.isEmit = false ∧ ∀ answer, (next answer).Silent

namespace Program.Silent

variable {σ α γ : Type} {q : Program σ ε β α} (respond : β → ε → Program σ ε β Unit) (limit : ℕ)

end Program.Silent

lemma Program.Silent.bind {σ α γ : Type} {q : Program σ ε β α} {f : α → Program σ ε β γ}
    (h : q.Silent) (hf : ∀ a, (f a).Silent) : (q >>= f).Silent := by
  induction q with
  | done a => exact hf a
  | request r next ih => exact ⟨h.1, fun answer => ih answer (h.2 answer)⟩

section Outside

variable [DecidableEq ν] (absent : Member β → Bool)
  (respond : Member β → ε → Play ν ε β Unit) (limit : ℕ) {d : Deed ν ε β}
  (deeds : List (Deed ν ε β)) (w : World (Notes ν ε) ε (Member β))

end Outside

end Keychord.Bus
