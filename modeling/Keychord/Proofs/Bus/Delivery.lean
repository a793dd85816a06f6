import Keychord.Proofs.Bus.Turns

/-!
# Every round is delivered to those it should

Whatever the listeners do and whatever is done from outside, a round calls those who listened
when it began and were not taken off before their turn, each once, in the order in which they
were added. Who is added during a round takes part from the next round on, and who was taken
off is never called again.

The state of the bus is measured by the journal step by step; what is said about a run is then
read off the journal alone.
-/
namespace Keychord.Bus

variable {σ ε β α : Type} {owning : Prop}

open Happening

/-- This is what happened in a complete round, and what had happened before it. -/
def IsRound (hs before : List (Happening ε)) (e : ε) (body : List (Happening ε)) : Prop :=
  (∀ x ∈ body, x.isBoundary = false) ∧
    ∃ e' after, hs = before ++ .roundBegan e :: body ++ .roundEnded e' :: after

/-- A history in which every round is delivered to whom it should be. -/
structure Faithful (hs : List (Happening ε)) : Prop where
  /-- Numbers are given in the order of addition, none of them twice. -/
  numbered : (hs.filterMap joined?).Pairwise (·.number < ·.number)
  /-- A round calls those who listened when it began, but not those who were taken off in it
  before their turn. -/
  served : ∀ {before e body}, IsRound hs before e body →
    body.filterMap call? = owed e (living before) body
  /-- Nobody is called twice in a round, and all in the order in which they were added. -/
  ordered : ∀ {before e body}, IsRound hs before e body →
    (body.filterMap call?).Pairwise (·.1.number < ·.1.number)
  /-- Who is added during a round takes no part in it. -/
  newcomer : ∀ {before e body}, IsRound hs before e body →
    ∀ id ∈ body.filterMap joined?, ∀ x, (id, x) ∉ body.filterMap call?
  /-- Who was added takes part in every later round, until taken off. -/
  regular : ∀ {before x between e body id}, IsRound hs (before ++ x :: between) e body →
    x.joined? = some id → id ∉ (between ++ beforeTurn id body).filterMap left? →
    (id, e) ∈ body.filterMap call?
  /-- Who was taken off is never called again. -/
  gone : ∀ {before x after id}, hs = before ++ x :: after → x.left? = some id →
    id ∈ before.filterMap joined? → ∀ e, (id, e) ∉ after.filterMap call?

def RoundsServed (hs : List (Happening ε)) : Prop :=
  ∀ before e body, IsRound hs before e body →
    body.filterMap call? = owed e (living before) body

/-- Who is called listens at that moment. -/
def CallsLive (hs : List (Happening ε)) : Prop :=
  ∀ before id e after, hs = before ++ .called id e :: after → id ∈ living before

lemma RoundsServed.concat {hs : List (Happening ε)} {x : Happening ε} (h : RoundsServed hs)
    (hx : ∀ before e body e', x = .roundEnded e' → hs = before ++ .roundBegan e :: body →
      (∀ y ∈ body, y.isBoundary = false) →
      body.filterMap call? = owed e (living before) body) :
    RoundsServed (hs ++ [x]) := by
  rintro before e body ⟨hbody, e', after, heq⟩
  rcases concat_eq_append_cons heq with ⟨-, rfl, hhs⟩ | ⟨after', -, hhs⟩
  · exact hx before e body e' rfl hhs.symm hbody
  · exact h before e body ⟨hbody, e', after', hhs⟩

lemma CallsLive.concat {hs : List (Happening ε)} {x : Happening ε} (h : CallsLive hs)
    (hx : ∀ id e, x = .called id e → id ∈ living hs) : CallsLive (hs ++ [x]) := by
  intro before id e after heq
  rcases concat_eq_append_cons heq with ⟨-, rfl, rfl⟩ | ⟨after', -, hhs⟩
  · exact hx id e rfl
  · exact h before id e after' hhs

/-- What is true of every stage of every run. -/
structure Sound (owning : Prop) (s : Stage ε β × World σ ε β) : Prop where
  poised : Poised owning s.1 s.2
  registered : Registered s.2
  inRound : InRound s.1 s.2
  served : RoundsServed s.2.happenings
  live : CallsLive s.2.happenings

/-- At the end of a round every listener has had its turn. -/
lemma Sound.served_at_end {e : ε} {w : World σ ε β} (h : Sound owning (.leaving e, w))
    {before body : List (Happening ε)} {e' : ε}
    (hw : w.happenings = before ++ .roundBegan e' :: body)
    (hbody : ∀ y ∈ body, y.isBoundary = false) :
    body.filterMap call? = owed e' (living before) body := by
  obtain ⟨before', body', hround⟩ := h.inRound
  obtain ⟨rfl, heq, rfl⟩ := last_boundary_unique (hw.symm.trans hround.journal) rfl rfl hbody
    hround.within
  cases heq
  exact hround.called

lemma Sound.live_at_call {e : ε} {l : Listener β} {waiting : List (Listener β)}
    {w : World σ ε β} (h : Sound owning (.turns e (l :: waiting), w)) (hl : l.id ∉ w.bus.removals) :
    l.id ∈ living w.happenings := by
  obtain ⟨late, past, before, body, hround⟩ := h.inRound
  have hlisteners : w.bus.listeners = past ++ l :: waiting := hround.listeners
  have hmem : l ∈ w.bus.listeners := by simp [hlisteners]
  rw [← h.registered.present, present_eq]
  exact List.mem_append_left _
    (List.mem_filter.mpr ⟨List.mem_map_of_mem hmem, by simpa using hl⟩)

lemma Sound.step {s t : Stage ε β × World σ ε β} (hstep : Step owning s t) (h : Sound owning s) :
    Sound owning t where
  poised := h.poised.step hstep
  registered := h.registered.step hstep h.poised
  inRound := h.inRound.step hstep h.poised h.registered
  served := by
    rcases hstep.journal with heq | ⟨x, heq, hentry⟩
    · rw [heq]
      exact h.served
    · rw [heq]
      refine h.served.concat ?_
      intro before e body e' hx hhs hbody
      obtain ⟨stage, w⟩ := s
      obtain rfl : stage = .leaving e' := hentry.ending e' hx
      exact h.served_at_end hhs hbody
  live := by
    rcases hstep.journal with heq | ⟨x, heq, hentry⟩
    · rw [heq]
      exact h.live
    · rw [heq]
      refine h.live.concat ?_
      intro id e hx
      obtain ⟨stage, w⟩ := s
      obtain ⟨l, waiting, rfl, rfl, hl⟩ := hentry.call id e hx
      exact h.live_at_call hl

lemma Sound.start (memory : σ) : Sound owning (.outside, ({ memory } : World σ ε β)) where
  poised := .start memory
  registered := ⟨rfl, rfl, List.nil_sublist _⟩
  inRound := trivial
  served := by
    rintro before e body ⟨-, e', after, heq⟩
    simp [World.happenings] at heq
  live := by
    intro before id e after heq
    simp [World.happenings] at heq

section Faithful

variable {hs : List (Happening ε)} {before : List (Happening ε)} {e : ε}
  {body : List (Happening ε)}

lemma RoundsServed.ordered (h : RoundsServed hs)
    (hnumbered : (hs.filterMap joined?).Pairwise (·.number < ·.number))
    (hround : IsRound hs before e body) :
    (body.filterMap call?).Pairwise (·.1.number < ·.1.number) := by
  have hbefore : before <+: hs := by
    obtain ⟨-, e', after, rfl⟩ := hround
    exact ⟨_, (List.append_assoc _ _ _).symm⟩
  rw [h before e body hround, owed, List.pairwise_map]
  exact (living_sorted hnumbered hbefore).filter _

lemma RoundsServed.newcomer (h : RoundsServed hs)
    (hnumbered : (hs.filterMap joined?).Pairwise (·.number < ·.number))
    (hround : IsRound hs before e body) {id : ListenerId} (hid : id ∈ body.filterMap joined?)
    (x : ε) : (id, x) ∉ body.filterMap call? := by
  intro hcall
  rw [h before e body hround] at hcall
  have hbefore : id ∈ before.filterMap joined? :=
    (living_sublist_joined before).subset (mem_of_mem_owed hcall)
  obtain ⟨-, e', after, rfl⟩ := hround
  rw [List.append_assoc, List.filterMap_append, List.pairwise_append] at hnumbered
  have hlater : id ∈ (.roundBegan e :: body ++ .roundEnded e' :: after).filterMap joined? := by
    rw [List.filterMap_append]
    exact List.mem_append_left _ hid
  exact absurd (hnumbered.2.2 id hbefore id hlater) (Nat.lt_irrefl _)

lemma RoundsServed.regular {between : List (Happening ε)} {x : Happening ε} {id : ListenerId}
    (h : RoundsServed hs) (hround : IsRound hs (before ++ x :: between) e body)
    (hx : x.joined? = some id)
    (hleft : id ∉ (between ++ beforeTurn id body).filterMap left?) :
    (id, e) ∈ body.filterMap call? := by
  rw [List.filterMap_append, List.mem_append, not_or] at hleft
  rw [h _ e body hround, mem_owed_iff, mem_living_iff]
  exact ⟨⟨before, x, between, rfl, hx, hleft.1⟩, hleft.2⟩

lemma CallsLive.gone {after : List (Happening ε)} {x : Happening ε} {id : ListenerId}
    (h : CallsLive hs)
    (hnumbered : (hs.filterMap joined?).Pairwise (·.number < ·.number))
    (heq : hs = before ++ x :: after) (hx : x.left? = some id)
    (hid : id ∈ before.filterMap joined?) (e : ε) : (id, e) ∉ after.filterMap call? := by
  intro hcall
  obtain ⟨y, hy, hye⟩ := List.mem_filterMap.mp hcall
  obtain ⟨since, rest, rfl⟩ := List.append_of_mem hy
  obtain rfl := call?_eq_some_iff.mp hye
  have hlive : id ∈ living (before ++ x :: since) :=
    h _ id e rest (by simp [heq])
  -- it was taken off, so it must have been added again since
  have hagain : id ∈ since.filterMap joined? := by
    rw [List.append_cons, living_append, living_concat, register_of_left _ hx,
      List.mem_append] at hlive
    rcases hlive with hlive | hlive
    · simp at hlive
    · exact (living_sublist_joined since).subset hlive
  rw [heq, List.filterMap_append, List.pairwise_append] at hnumbered
  have hlater : id ∈ (x :: (since ++ .called id e :: rest)).filterMap joined? := by
    rw [← List.singleton_append, List.filterMap_append, List.filterMap_append]
    exact List.mem_append_right _ (List.mem_append_left _ hagain)
  exact absurd (hnumbered.2.2 id hid id hlater) (Nat.lt_irrefl _)

end Faithful

lemma Sound.faithful {s : Stage ε β × World σ ε β} (h : Sound owning s) :
    Faithful s.2.happenings where
  numbered := h.registered.joined_sorted
  served := h.served _ _ _
  ordered := h.served.ordered h.registered.joined_sorted
  newcomer hround _ hid := h.served.newcomer h.registered.joined_sorted hround hid
  regular := h.served.regular
  gone := h.live.gone h.registered.joined_sorted

/-- Every run of a bus, whatever is done from outside and by the listeners, delivers each round
to those it should, also if the run is broken off. -/
theorem rounds_faithful (respond : β → ε → Program σ ε β Unit) (limit : Nat)
    (p : Program σ ε β α) (memory : σ) :
    Faithful (World.reached (p.perform respond limit { memory })).happenings := by
  obtain ⟨s, -, hsteps⟩ := World.reached_steps respond limit p { memory }
  exact (hsteps.preserve Sound.step (Sound.start memory)).faithful

/-- At event 0 this listener takes the next one off, adds a new one and emits event 1. -/
def relay : Bool → Nat → Program Unit Nat Bool Unit
  | true, 0 => do
    Program.remove ⟨1⟩
    let _ ← Program.add false
    Program.emit 1
  | _, _ => pure ()

/-- The event was emitted before the listener was added, and is delivered to it. -/
theorem newcomer_hears_waiting_event :
    ∃ before after,
      IsRound (World.reached ((do
        let _ ← Program.add true
        let _ ← Program.add false
        Program.emit 0 : Program Unit Nat Bool Unit).perform relay 1 { memory := () })).happenings
        (before ++ .added ⟨2⟩ :: .emitted 1 :: after) 1
        [.called ⟨0⟩ 1, .returned ⟨0⟩, .called ⟨2⟩ 1, .returned ⟨2⟩] ∧
      (⟨2⟩, 1) ∈ [.called ⟨0⟩ 1, .returned ⟨0⟩, .called ⟨2⟩ 1, .returned ⟨2⟩].filterMap call? := by
  have hround : IsRound (World.reached ((do
        let _ ← Program.add true
        let _ ← Program.add false
        Program.emit 0 : Program Unit Nat Bool Unit).perform relay 1 { memory := () })).happenings
      ([.added ⟨0⟩, .added ⟨1⟩, .emitted 0, .roundBegan 0, .called ⟨0⟩ 0, .removed ⟨1⟩] ++
        .added ⟨2⟩ :: .emitted 1 :: [.returned ⟨0⟩, .roundEnded 0]) 1
      [.called ⟨0⟩ 1, .returned ⟨0⟩, .called ⟨2⟩ 1, .returned ⟨2⟩] :=
    ⟨by simp [isBoundary], 1, [], rfl⟩
  exact ⟨_, _, hround, (rounds_faithful relay 1 _ ()).regular hround rfl (by decide)⟩

end Keychord.Bus
