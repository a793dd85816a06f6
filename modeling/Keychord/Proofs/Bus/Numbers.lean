import Keychord.Proofs.Bus.Points
import Keychord.Proofs.Bus.Subscriptions

/-!
# Listeners are numbered in order

A new listener gets the next number, from outside and during a delivery alike. In a delivery it waits
in a list of its own, behind listeners that may have been taken off. The numbers on the bus, with
those that wait at the end, are nevertheless some of the numbers that have been given out, in the
order in which they were given out. Hence they are in order at every point of a run.
-/
namespace Keychord.Bus

variable {σ ε β α : Type}

open Happening

/-- A world in which listeners are numbered in order. -/
structure WellNumbered (w : World σ ε β) : Prop where
  increasing : w.bus.ids.Pairwise (·.number < ·.number)
  below : ∀ id ∈ w.bus.ids, id.number < w.bus.nextId
  /-- The listeners on the bus stand in the order in which they were added. -/
  stored : w.bus.ids.Sublist (w.happenings.filterMap joined?)
  /-- Each addition has been given the next number. -/
  given : w.happenings.filterMap joined? = (List.range w.bus.nextId).map ListenerId.mk
  /-- A number that is given out was not given out before and is not given out again. -/
  once : ∀ {before x after id}, w.happenings = before ++ x :: after → x.joined? = some id →
    id ∉ before.filterMap joined? ∧ id ∉ after.filterMap joined?

lemma Registered.wellNumbered {w : World σ ε β} (h : Registered w) : WellNumbered w where
  increasing := List.Pairwise.sublist h.stored h.joined_sorted
  below := by
    intro id hid
    have hgiven := h.stored.subset hid
    rw [h.joined, List.mem_map] at hgiven
    obtain ⟨n, hn, rfl⟩ := hgiven
    exact List.mem_range.mp hn
  stored := h.stored
  given := h.joined
  once heq hx := Numbered.once h.joined_sorted heq hx

/-- However far a run has come, its listeners are numbered in order. -/
lemma Steps.wellNumbered {owning : Prop} {memory : σ} {s : Stage ε β × World σ ε β}
    (h : Steps owning (.outside, { memory }) s) : WellNumbered s.2 :=
  (h.preserve Sound.step (Sound.start memory)).registered.wellNumbered

/-- At every point of every run, outside and inside the listeners, the numbers of those on the bus
and then of those that wait are increasing and below the next number. They stand in the order in
which they were given out, and none was given out twice. -/
theorem numbered_in_order (respond : β → ε → Program σ ε β Unit) (limit : ℕ)
    (p : Program σ ε β α) (memory : σ) :
    (∀ w, p.RestsAt respond limit { memory } w → WellNumbered w) ∧
    ∀ c w, p.IsInside respond limit { memory } c w → WellNumbered w := by
  constructor
  · intro w h
    exact h.steps.wellNumbered
  · intro c w h
    obtain ⟨waiting, hsteps⟩ := h.steps
    exact hsteps.wellNumbered

/-- Adds a listener that relays an event and one that does not, and emits the event. -/
def relayed : Program Unit ℕ Bool Unit := do
  let _ ← Program.add true
  let _ ← Program.add false
  Program.emit 0

/-- While the first listener is called there are three, of which the last one waits. Afterwards the
second is gone, and the next number is none that has been used. -/
theorem numbers_of_relayed :
    (∃ c w, relayed.IsInside relay 1 { memory := () } c w ∧
      w.bus.ids = [⟨0⟩, ⟨1⟩, ⟨2⟩] ∧ WellNumbered w) ∧
    ∃ w, relayed.RestsAt relay 1 { memory := () } w ∧
      w.bus.ids = [⟨0⟩, ⟨2⟩] ∧ w.bus.nextId = 3 ∧ WellNumbered w := by
  obtain ⟨houtside, hinside⟩ := numbered_in_order relay 1 relayed ()
  have hcalled : ∃ c w, relayed.IsInside relay 1 { memory := () } c w ∧
      w.bus.ids = [⟨0⟩, ⟨1⟩, ⟨2⟩] :=
    ⟨_, _, ⟨List.mem_of_getElem? (i := 0) rfl, .answer (.answer (.here _ _))⟩, rfl⟩
  have hended : ∃ w, relayed.RestsAt relay 1 { memory := () } w ∧
      w.bus.ids = [⟨0⟩, ⟨2⟩] ∧ w.bus.nextId = 3 :=
    ⟨_, .of_perform rfl, rfl, rfl⟩
  obtain ⟨c, w, hw, hids⟩ := hcalled
  obtain ⟨v, hv, hids', hnext⟩ := hended
  exact ⟨⟨c, w, hw, hids, hinside c w hw⟩, v, hv, hids', hnext, houtside v hv⟩

end Keychord.Bus
