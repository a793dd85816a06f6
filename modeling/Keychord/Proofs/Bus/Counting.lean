import Keychord.Proofs.Bus.Order
import Keychord.Proofs.Bus.Points
import Keychord.Proofs.Bus.Subscriptions

/-!
# What a bus shows of itself

A bus shows whether it is emitting and how many listeners it counts. From outside these are all who
listen, and nothing is ever left waiting: no event, no addition and no removal. Inside a listener
only those count that were added since the round began and not taken off since, however many others
there are.

Inside a listener the additions that wait have to be told from the listeners of the round. The journal
does so: whoever listens now and was not added in this round has listened when it began.
-/
namespace Keychord.Bus

variable {σ ε β α : Type} {owning : Prop}

open Happening

/-- Of the listeners that were added in the last part of a history, those still listen that were not
taken off in it. -/
lemma living_eq_filter (before : List (Happening ε)) {hs : List (Happening ε)}
    (hnumbered : Numbered (before ++ hs)) (hearned : Earned joined? left? (before ++ hs)) :
    living hs = (hs.filterMap joined?).filter fun id => id ∉ hs.filterMap left? := by
  have hnumbered' : Numbered hs := by
    rw [Numbered, List.filterMap_append, List.pairwise_append] at hnumbered
    exact hnumbered.2.1
  refine hnumbered'.eq_of_mem_iff (living_sublist_joined hs) List.filter_sublist fun id => ?_
  rw [mem_living_iff, List.mem_filter, decide_eq_true_iff]
  constructor
  · rintro ⟨since, x, after, rfl, hx, hafter⟩
    refine ⟨List.mem_filterMap.mpr ⟨x, by simp, hx⟩, fun hleft => hafter ?_⟩
    refine hearned.used_after (fun _ _ h => h) hnumbered (List.append_assoc _ _ _).symm hx
      (left?_of_joined hx) ?_
    rw [List.filterMap_append]
    exact List.mem_append_right _ hleft
  · rintro ⟨hjoined, hleft⟩
    obtain ⟨x, hmem, hx⟩ := List.mem_filterMap.mp hjoined
    obtain ⟨since, after, rfl⟩ := List.append_of_mem hmem
    refine ⟨since, x, after, rfl, hx, fun hafter => hleft ?_⟩
    rw [List.append_cons, List.filterMap_append]
    exact List.mem_append_right _ hafter

/-- Inside a round those wait who were added in it and not taken off since. -/
lemma RoundSoFar.additions {e : ε} {late : List ListenerId} {past waiting : List (Listener β)}
    {before body : List (Happening ε)} {w : World σ ε β}
    (h : RoundSoFar e late past waiting before body w) (hr : Registered w) :
    w.bus.additions.map Listener.id = living body := by
  have hbody : living (.roundBegan e :: body) = living body := rfl
  have hleft : (.roundBegan e :: body).filterMap left? = body.filterMap left? := rfl
  have hstay : (w.bus.listeners.map Listener.id).filter (fun id => id ∉ w.bus.removals) =
      (living before).filter fun id => id ∉ body.filterMap left? := by
    rw [← h.roster, List.filter_filter, h.noted]
    refine List.filter_congr fun id _ => ?_
    simp [not_or, Bool.and_comm]
  have hpresent := hr.present
  rw [present_eq, hstay, h.journal, living_append, hbody, hleft] at hpresent
  exact List.append_cancel_left hpresent

/-- The bus shows so many listeners, and whether it is emitting, also as a text. -/
structure Shows (bus : Bus ε β) (n : ℕ) (b : Bool) : Prop where
  count : bus.count = n
  emitting : bus.emitting = b
  text : bus.view.display = "KeyboardBus \x7b listeners: " ++ n.repr ++ ", emitting: " ++
    (if b then "true" else "false") ++ " \x7d"

lemma shows (bus : Bus ε β) : bus.Shows bus.count bus.emitting := ⟨rfl, rfl, rfl⟩

/-- Outside of an emission no event and no addition waits, and no removal but of listeners that were
released. All count who listen, and those who are overdue. -/
structure AtRest (w : World σ ε β) : Prop where
  queue : w.bus.queue = []
  additions : w.bus.additions = []
  released : ∀ id ∈ w.bus.removals, .released id ∈ w.happenings
  shows : w.bus.Shows ((living w.happenings).length + w.bus.overdue.length) false
  /-- If no removal waits, those who listen are all that are on the bus. -/
  settled : w.bus.removals = [] →
    w.bus.listeners.map Listener.id = living w.happenings ∧
    w.bus.Shows (living w.happenings).length false
  /-- If only numbers are taken off that were given out, these are the ones never taken off. -/
  counted : Earned joined? left? w.happenings →
    living w.happenings =
      (w.happenings.filterMap joined?).filter fun id => id ∉ w.happenings.filterMap left?

/-- A round is in progress, and only those count who were added in it and not taken off since. -/
structure InProgress (e : ε) (before body : List (Happening ε)) (w : World σ ε β) : Prop where
  journal : w.happenings = before ++ .roundBegan e :: body
  within : ∀ x ∈ body, x.isBoundary = false
  shows : w.bus.Shows (living body).length true
  counted : Earned joined? left? w.happenings →
    living body = (body.filterMap joined?).filter fun id => id ∉ body.filterMap left?

lemma Sound.atRest {w : World σ ε β} (h : Sound owning (.outside, w))
    (haccounted : Accounted (.outside : Stage ε β) w) : AtRest w := by
  have hidle : w.bus.emitting = false := h.poised.emitting
  have hadditions : w.bus.additions = [] := h.poised.additions rfl
  have hshows : w.bus.Shows ((living w.happenings).length + w.bus.overdue.length) false :=
    h.count_outside ▸ hidle ▸ w.bus.shows
  refine ⟨haccounted.idle rfl, hadditions, fun id hid => (h.poised.late rfl id hid).released,
    hshows, fun hremovals => ⟨?_, ?_⟩, living_eq_filter [] h.registered.joined_sorted⟩
  · exact (present_of_calm ⟨hadditions, hremovals⟩).symm.trans h.registered.present
  · have hnobody : w.bus.overdue = [] := by simp [overdue, hremovals]
    rwa [hnobody, List.length_nil, Nat.add_zero] at hshows

lemma Sound.inProgress {e : ε} {l : Listener β} {waiting : List (Listener β)} {w : World σ ε β}
    (h : Sound owning (.inside e l waiting, w)) : ∃ before body, InProgress e before body w := by
  obtain ⟨late, past, before, body, hround, -⟩ := h.inRound
  refine ⟨before, body, hround.journal, hround.within, ?_, fun hearned => ?_⟩
  · have hemitting : w.bus.emitting = true := h.poised.emitting
    have hcount : w.bus.count = (living body).length := by
      rw [← hround.additions h.registered, List.length_map]
      simp [count, hemitting]
    exact hcount ▸ hemitting ▸ w.bus.shows
  · have heq : w.happenings = (before ++ [.roundBegan e]) ++ body := by simp [hround.journal]
    exact living_eq_filter _ (heq ▸ h.registered.joined_sorted) (heq ▸ hearned)

/-- Whenever a run is outside of an emission, the bus is not emitting, and no event and no addition
waits. It counts all who listen, and besides them only those whose release waits because the
subscription was owned by a listener that left. If nobody owns a subscription no removal waits
either. Inside a listener the bus is emitting and counts only the listeners that were added since
the round began and not taken off since, whoever else listens. -/
theorem shown_at_rest_and_in_rounds (owns : σ → Listener β → List Subscription)
    (respond : β → ε → Program σ ε β Unit) (limit : ℕ) (p : Program σ ε β α) (memory : σ) :
    (∀ w, Owning.RestsAt owns respond limit p { memory } w →
      AtRest w ∧ ((∀ m l, owns m l = []) → w.bus.removals = [])) ∧
    ∀ e l w, Owning.IsInside owns respond limit e l w p { memory } →
      ∃ before body, InProgress e before body w := by
  constructor
  · intro w h
    have haccounted := h.steps.preserve Accounted.step (Accounted.start memory)
    exact ⟨h.sound.atRest haccounted, h.removals⟩
  · intro e l w h
    obtain ⟨waiting, hsteps⟩ := h.steps
    exact (hsteps.preserve Sound.step (Sound.start memory)).inProgress

/-- At event 0 this listener adds two others and takes the first of them off again, and then a number
that nobody has. -/
def fickle : Bool → ℕ → Program Unit ℕ Bool Unit
  | true, 0 => do
    let guest ← Program.add false
    let _ ← Program.add false
    Program.remove guest
    Program.remove ⟨9⟩
    Program.emit 1
  | _, _ => pure ()

def crowded : Program Unit ℕ Bool Unit := do
  let _ ← Program.add true
  let _ ← Program.add false
  Program.emit 0

/-- When the first listener is done, one of the two that it added counts and nobody else does. After
the emission all three count, and no removal waits. -/
theorem counts_of_crowded :
    (∃ w, Owning.IsInside (fun _ _ => []) fickle 1 0 ⟨⟨0⟩, true⟩ w crowded { memory := () } ∧
      w.bus.view.display = "KeyboardBus \x7b listeners: 1, emitting: true \x7d" ∧
      ∃ before body, InProgress 0 before body w) ∧
    ∃ w, Owning.RestsAt (fun _ _ => []) fickle 1 crowded { memory := () } w ∧
      w.bus.view.display = "KeyboardBus \x7b listeners: 3, emitting: false \x7d" ∧ AtRest w ∧
      w.bus.removals = [] := by
  obtain ⟨houtside, hinside⟩ := shown_at_rest_and_in_rounds (fun _ _ => []) fickle 1 crowded ()
  have hcalled : ∃ w,
      Owning.IsInside (fun _ _ => []) fickle 1 0 ⟨⟨0⟩, true⟩ w crowded { memory := () } ∧
      w.bus.view.display = "KeyboardBus \x7b listeners: 1, emitting: true \x7d" :=
    ⟨_, .answer rfl rfl (.answer rfl rfl (.now (.here (.here nofun (.answer rfl (.answer rfl
      (.answer rfl (.answer rfl (.answer rfl (.here _ _)))))))))), rfl⟩
  have hended : ∃ w, Owning.RestsAt (fun _ _ => []) fickle 1 crowded { memory := () } w ∧
      w.bus.view.display = "KeyboardBus \x7b listeners: 3, emitting: false \x7d" :=
    ⟨_, Owning.restsAt_of_perform rfl, rfl⟩
  obtain ⟨w, hw, htext⟩ := hcalled
  obtain ⟨v, hv, htext'⟩ := hended
  obtain ⟨hrest, hcalm⟩ := houtside v hv
  exact ⟨⟨w, hw, htext, hinside 0 _ w hw⟩, v, hv, htext', hrest, hcalm fun _ _ => rfl⟩

/-- A guest whose subscription was held by somebody that left counts although it was released, and
its removal waits. -/
theorem overdue_guest_counts :
    ∃ w, Owning.RestsAt Party.holds Party.respond 0 (do Party.meet; Program.emit 0)
        { memory := () } w ∧
      w.bus.removals = [⟨0⟩] ∧ w.bus.count = 2 ∧ living w.happenings = [⟨2⟩] :=
  ⟨_, Owning.restsAt_of_perform rfl, rfl, rfl, by decide +kernel⟩

end Keychord.Bus
