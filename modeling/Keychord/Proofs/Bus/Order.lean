import Keychord.Proofs.Bus.Ledger

/-!
# One call at a time, one round for each emission

A history is orderly if rounds follow one another, the calls of a round follow one another in
it, and requests come from outside between rounds or from the listener that is being called.
Every run has an orderly history. The events that were emitted are, in this order, those for
which a round began, the one that is due now, and those in the queue.
-/
namespace Keychord.Bus

variable {σ ε β : Type} {owning : Prop}

open Happening

/-- Where a history stands. -/
inductive Phase (ε : Type) where
  | idle
  | round (e : ε)
  | call (e : ε) (id : ListenerId)

/-- What may happen in a phase, and the phase after it. -/
inductive Phase.Move : Phase ε → Happening ε → Phase ε → Prop
  | began (e : ε) : Move .idle (.roundBegan e) (.round e)
  | called (e : ε) (id : ListenerId) : Move (.round e) (.called id e) (.call e id)
  | returned (e : ε) (id : ListenerId) : Move (.call e id) (.returned id) (.round e)
  | ended (e : ε) : Move (.round e) (.roundEnded e) .idle
  | outside {x : Happening ε} (hx : x.isRequest = true) : Move .idle x .idle
  | inside {e : ε} {id : ListenerId} {x : Happening ε} (hx : x.isRequest = true) :
      Move (.call e id) x (.call e id)

inductive Orderly : List (Happening ε) → Phase ε → Prop
  | nil : Orderly [] .idle
  | concat {hs : List (Happening ε)} {x : Happening ε} {phase phase' : Phase ε}
      (h : Orderly hs phase) (hx : phase.Move x phase') : Orderly (hs ++ [x]) phase'

lemma Orderly.of_isPrefix {hs before : List (Happening ε)} {phase : Phase ε}
    (h : Orderly hs phase) (hbefore : before <+: hs) : ∃ phase', Orderly before phase' := by
  induction h with
  | nil =>
      obtain rfl := List.prefix_nil.mp hbefore
      exact ⟨_, .nil⟩
  | concat h hx ih =>
      rcases List.prefix_concat_iff.mp hbefore with rfl | hbefore
      · exact ⟨_, h.concat hx⟩
      · exact ih hbefore

/-- From a call until the listener returns nothing happens but what the listener asks for. -/
lemma Orderly.in_call {hs before after : List (Happening ε)} {phase : Phase ε}
    {id : ListenerId} {e : ε} (h : Orderly hs phase) (heq : hs = before ++ .called id e :: after)
    (hreturned : .returned id ∉ after) :
    phase = .call e id ∧ ∀ x ∈ after, x.isRequest = true := by
  induction h generalizing after with
  | nil => simp at heq
  | @concat hs x phase phase' h hmove ih =>
      -- either the call is the last entry, or it is one before and only requests have followed
      rcases concat_eq_append_cons heq with ⟨rfl, rfl, -⟩ | ⟨after, rfl, rfl⟩
      · cases hmove with
        | called => exact ⟨rfl, nofun⟩
        | outside hx | inside hx => cases hx
      · rw [List.mem_append, not_or] at hreturned
        obtain ⟨rfl, hafter⟩ := ih rfl hreturned.1
        cases hmove with
        | returned => simp at hreturned
        | inside hx => exact ⟨rfl, by simpa [or_imp, forall_and, hx] using hafter⟩

/-- From the beginning of a round until its end no other round begins or ends. -/
lemma Orderly.in_round {hs before after : List (Happening ε)} {phase : Phase ε} {e : ε}
    (h : Orderly hs phase) (heq : hs = before ++ .roundBegan e :: after)
    (hended : .roundEnded e ∉ after) :
    (phase = .round e ∨ ∃ id, phase = .call e id) ∧ ∀ x ∈ after, x.isBoundary = false := by
  induction h generalizing after with
  | nil => simp at heq
  | @concat hs x phase phase' h hmove ih =>
      rcases concat_eq_append_cons heq with ⟨rfl, rfl, -⟩ | ⟨after, rfl, rfl⟩
      · cases hmove with
        | began => exact ⟨.inl rfl, nofun⟩
        | outside hx | inside hx => cases hx
      · rw [List.mem_append, not_or] at hended
        obtain ⟨hphase, hafter⟩ := ih rfl hended.1
        suffices hmove' : (phase' = .round e ∨ ∃ id, phase' = .call e id) ∧
            x.isBoundary = false by
          exact ⟨hmove'.1, by simpa [or_imp, forall_and, hmove'.2] using hafter⟩
        rcases hphase with rfl | ⟨id, rfl⟩
        · cases hmove with
          | called => exact ⟨.inr ⟨_, rfl⟩, rfl⟩
          | ended => simp at hended
        · cases hmove with
          | returned => exact ⟨.inl rfl, rfl⟩
          | inside hx => exact ⟨.inr ⟨_, rfl⟩, by cases x <;> first | rfl | cases hx⟩

/-- No listener is called before the last one that was called has returned. -/
lemma Orderly.returned_between {hs before between after : List (Happening ε)}
    {phase : Phase ε} {id id' : ListenerId} {e e' : ε} (h : Orderly hs phase)
    (heq : hs = before ++ .called id e :: between ++ .called id' e' :: after) :
    .returned id ∈ between := by
  by_contra hreturned
  obtain ⟨phase', h'⟩ :
      ∃ phase', Orderly (before ++ .called id e :: (between ++ [.called id' e'])) phase' :=
    h.of_isPrefix ⟨after, by simp [heq]⟩
  have hcall := (h'.in_call rfl (by simpa using hreturned)).2 (.called id' e') (by simp)
  cases hcall

/-- No round begins before the last one that began has ended. -/
lemma Orderly.ended_between {hs before between after : List (Happening ε)} {phase : Phase ε}
    {e e' : ε} (h : Orderly hs phase)
    (heq : hs = before ++ .roundBegan e :: between ++ .roundBegan e' :: after) :
    .roundEnded e ∈ between := by
  by_contra hended
  obtain ⟨phase', h'⟩ :
      ∃ phase', Orderly (before ++ .roundBegan e :: (between ++ [.roundBegan e'])) phase' :=
    h.of_isPrefix ⟨after, by simp [heq]⟩
  have hround := (h'.in_round rfl (by simpa using hended)).2 (.roundBegan e') (by simp)
  cases hround

def Stage.phase : Stage ε β → Phase ε
  | turns e _ | leaving e => .round e
  | inside e l _ => .call e l.id
  | _ => .idle

lemma Orderly.answered {w w' : World σ ε β} {r : Request σ ε β} {phase : Phase ε}
    (h : Orderly w.happenings phase) (ha : Answered w r w')
    (hphase : ∀ x : Happening ε, x.isRequest = true → phase.Move x phase) :
    Orderly w'.happenings phase := by
  rcases ha.journal with heq | ⟨x, heq, hx⟩
  · rwa [heq]
  · rw [heq]
    exact h.concat (hphase x hx)

lemma Orderly.step {s t : Stage ε β × World σ ε β} (hstep : Step False s t)
    (h : Orderly s.2.happenings s.1.phase) : Orderly t.2.happenings t.1.phase := by
  cases hstep with
  | answer r hr => exact h.answered (World.answered _ r) fun _ => .outside
  | emit e => exact World.happenings_note _ _ ▸ h.concat (.outside rfl)
  | start e => exact World.happenings_note _ _ ▸ h.concat (.began e)
  | skip hl => exact h
  | call hl => exact World.happenings_note _ _ ▸ h.concat (.called _ _)
  | request r => exact h.answered (World.answered _ r) fun _ => .inside
  | «return» => exact World.happenings_note _ _ ▸ h.concat (.returned _ _)
  | retire => exact h
  | letGo ho hid => exact ho.elim
  | join => exact World.happenings_note _ _ ▸ h.concat (.ended _)
  | next hq => exact h
  | finish hq => exact h

/-- The event for which the next round begins, once it has been chosen. -/
def Stage.dueEvents : Stage ε β → List ε
  | starting e => [e]
  | _ => []

/-- Rounds begin for the events that were emitted, in this order. -/
def RoundsFollow (hs : List (Happening ε)) : Prop :=
  ∀ before, before <+: hs → before.filterMap opening? <+: before.filterMap emission?

structure Accounted (s : Stage ε β) (w : World σ ε β) : Prop where
  emitted : w.happenings.filterMap emission? =
    w.happenings.filterMap opening? ++ s.dueEvents ++ w.bus.queue
  idle : s = .outside → w.bus.queue = []

lemma Accounted.start (memory : σ) : Accounted .outside ({ memory } : World σ ε β) :=
  ⟨rfl, fun _ => rfl⟩

/-- What leaves the queue and the events as they are. -/
lemma Accounted.note {s t : Stage ε β} {w : World σ ε β} (h : Accounted s w) {bus : Bus ε β}
    {x : Happening ε} (hdue : t.dueEvents = s.dueEvents) (hidle : t = .outside → s = .outside)
    (hqueue : bus.queue = w.bus.queue) (hx : x.emission? = none) (hx' : x.opening? = none) :
    Accounted t ({ w with bus }.note x) where
  emitted := by simpa [hx, hx', hdue, hqueue] using h.emitted
  idle ht := hqueue.trans (h.idle (hidle ht))

lemma Accounted.answered {s : Stage ε β} {w w' : World σ ε β} {r : Request σ ε β}
    (h : Accounted s w) (ha : Answered w r w') (hr : r.isEmit = true → s ≠ .outside)
    (hs : s.dueEvents = []) : Accounted s w' := by
  cases ha with
  | quiet memory => exact ⟨h.emitted, h.idle⟩
  | joined body x hj =>
      obtain ⟨hx, hemission⟩ := request_of_joined hj
      exact h.note rfl (fun hs => hs) (queue_add _ _) hemission (opening?_of_isRequest hx)
  | left id x hl =>
      obtain ⟨hx, hemission⟩ := request_of_left hl
      exact h.note rfl (fun hs => hs) (queue_remove _ _) hemission (opening?_of_isRequest hx)
  | emitted e =>
      refine ⟨?_, fun ht => (hr rfl ht).elim⟩
      have hemitted := h.emitted
      simp only [World.happenings_note, World.happenings_with_bus, List.filterMap_append,
        hemitted, hs, enqueue, World.bus_note]
      simp [emission?, opening?]

lemma Accounted.step {s t : Stage ε β × World σ ε β} (hstep : Step owning s t)
    (h : Accounted s.1 s.2) : Accounted t.1 t.2 := by
  cases hstep with
  | answer r hr => exact h.answered (World.answered _ r) (by simp [hr]) rfl
  | @emit w e =>
      have hqueue : w.bus.queue = [] := h.idle rfl
      have hopening : (Happening.emitted e).opening? = none := rfl
      refine ⟨?_, nofun⟩
      simpa [World.due, hqueue, hopening, emission?, Stage.dueEvents] using h.emitted
  | start e =>
      have hemission : (Happening.roundBegan e).emission? = none := rfl
      refine ⟨?_, nofun⟩
      simpa [hemission, opening?, Stage.dueEvents] using h.emitted
  | skip hl => exact ⟨h.emitted, nofun⟩
  | call hl => exact h.note rfl nofun rfl rfl rfl
  | request r => exact h.answered (World.answered _ r) (fun _ => nofun) rfl
  | «return» => exact h.note rfl nofun rfl rfl rfl
  | retire => exact ⟨h.emitted, nofun⟩
  | letGo ho hid => exact h.note rfl nofun (queue_remove _ _) rfl rfl
  | join => exact h.note rfl nofun rfl rfl rfl
  | next hq =>
      refine ⟨?_, nofun⟩
      simpa [Stage.dueEvents, hq] using h.emitted
  | finish hq => exact ⟨h.emitted, fun _ => hq⟩

lemma RoundsFollow.concat {hs : List (Happening ε)} {x : Happening ε} (h : RoundsFollow hs)
    (hx : (hs ++ [x]).filterMap opening? <+: (hs ++ [x]).filterMap emission?) :
    RoundsFollow (hs ++ [x]) := by
  intro before hbefore
  rcases List.prefix_concat_iff.mp hbefore with rfl | hbefore
  · exact hx
  · exact h before hbefore

lemma RoundsFollow.step {s t : Stage ε β × World σ ε β} (hstep : Step owning s t)
    (ht : Accounted t.1 t.2) (h : RoundsFollow s.2.happenings) :
    RoundsFollow t.2.happenings := by
  rcases hstep.journal with heq | ⟨x, heq, -⟩
  · rw [heq]
    exact h
  · have hnow : t.2.happenings.filterMap opening? <+: t.2.happenings.filterMap emission? :=
      ⟨_, (ht.emitted.trans (List.append_assoc _ _ _)).symm⟩
    rw [heq] at hnow ⊢
    exact h.concat hnow

/-- A history in which one thing happens after another. -/
structure Sequential (hs : List (Happening ε)) : Prop where
  orderly : Orderly hs .idle
  /-- No listener is called before the last one that was called has returned. -/
  calls_apart : ∀ {before id e between id' e' after},
    hs = before ++ .called id e :: between ++ .called id' e' :: after → .returned id ∈ between
  /-- No round begins before the last one that began has ended. -/
  rounds_apart : ∀ {before e between e' after},
    hs = before ++ .roundBegan e :: between ++ .roundBegan e' :: after →
      .roundEnded e ∈ between
  follow : RoundsFollow hs

structure InOrder (s : Stage ε β × World σ ε β) : Prop where
  poised : Poised False s.1 s.2
  orderly : Orderly s.2.happenings s.1.phase
  accounted : Accounted s.1 s.2
  follow : RoundsFollow s.2.happenings

lemma InOrder.step {s t : Stage ε β × World σ ε β} (hstep : Step False s t) (h : InOrder s) :
    InOrder t where
  poised := h.poised.step hstep
  orderly := h.orderly.step hstep
  accounted := h.accounted.step hstep
  follow := h.follow.step hstep (h.accounted.step hstep)

lemma InOrder.start (memory : σ) : InOrder (.outside, ({ memory } : World σ ε β)) where
  poised := .start memory
  orderly := .nil
  accounted := .start memory
  follow before hbefore := by
    obtain rfl := List.prefix_nil.mp hbefore
    exact List.prefix_rfl

lemma InOrder.sequential {s : Stage ε β × World σ ε β} (h : InOrder s)
    (hs : s.1 = .outside ∨ s.1 = .between) : Sequential s.2.happenings where
  orderly := by
    have horderly := h.orderly
    rcases hs with hs | hs <;> rwa [hs] at horderly
  calls_apart heq := h.orderly.returned_between heq
  rounds_apart heq := h.orderly.ended_between heq
  follow := h.follow

/-- Outside of an emission every event that was emitted had its round. -/
lemma InOrder.all_delivered {w : World σ ε β} (h : InOrder (.outside, w)) :
    w.happenings.filterMap emission? = w.happenings.filterMap opening? := by
  have hqueue : w.bus.queue = [] := h.accounted.idle rfl
  simpa [Stage.dueEvents, hqueue] using h.accounted.emitted

end Keychord.Bus
