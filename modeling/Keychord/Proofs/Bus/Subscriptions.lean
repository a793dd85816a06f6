import Keychord.Bus.Script
import Keychord.Proofs.Bus.Delivery
import Keychord.Proofs.Bus.Owning
import Mathlib.Data.List.Chain
import Mathlib.Data.List.Infix
import Mathlib.Data.List.Sort

/-!
# Subscriptions are released

A listener that was subscribed goes when its subscription is released, from wherever and whenever
this happens: it is not called again, and no other listener loses its place by it. When all
subscriptions have been released, those who listen are the ones that were added without one and
never removed.

All of these are on the bus, but they need not be the only ones. If the subscription was owned by
a listener that left at the end of a round, its release waits on, and whom it belongs to stays on
the bus and is counted.

Every entry of a journal has the bus right after it, so what a release does to the others is
read off two neighbouring entries. The rest is about the happenings alone.
-/
namespace Keychord.Bus

variable {σ ε β α : Type} {owning : Prop}

open Happening

namespace Happening

def added? : Happening ε → Option ListenerId
  | added id => some id
  | _ => none

def subscribed? : Happening ε → Option ListenerId
  | subscribed id => some id
  | _ => none

def removed? : Happening ε → Option ListenerId
  | removed id => some id
  | _ => none

def released? : Happening ε → Option ListenerId
  | released id => some id
  | _ => none

lemma joined?_of_subscribed? {h : Happening ε} {id : ListenerId}
    (hs : h.subscribed? = some id) : h.joined? = some id := by
  cases h <;> first | exact hs | cases hs

end Happening

section Members

variable {hs : List (Happening ε)} {id : ListenerId}

lemma mem_view_iff {view : Happening ε → Option ListenerId} {x : Happening ε}
    (hview : ∀ y, view y = some id ↔ y = x) : id ∈ hs.filterMap view ↔ x ∈ hs := by
  simp [List.mem_filterMap, hview]

lemma mem_added_iff : id ∈ hs.filterMap added? ↔ .added id ∈ hs :=
  mem_view_iff fun y => by cases y <;> simp [added?]

lemma mem_subscribed_iff : id ∈ hs.filterMap subscribed? ↔ .subscribed id ∈ hs :=
  mem_view_iff fun y => by cases y <;> simp [subscribed?]

lemma mem_removed_iff : id ∈ hs.filterMap removed? ↔ .removed id ∈ hs :=
  mem_view_iff fun y => by cases y <;> simp [removed?]

lemma mem_released_iff : id ∈ hs.filterMap released? ↔ .released id ∈ hs :=
  mem_view_iff fun y => by cases y <;> simp [released?]

lemma mem_view_or_iff {view : Happening ε → Option ListenerId} {x y : Happening ε}
    (hview : ∀ z, view z = some id ↔ z = x ∨ z = y) :
    id ∈ hs.filterMap view ↔ x ∈ hs ∨ y ∈ hs := by
  simp only [List.mem_filterMap, hview]
  constructor
  · rintro ⟨z, hz, rfl | rfl⟩
    · exact .inl hz
    · exact .inr hz
  · rintro (hx | hy)
    · exact ⟨x, hx, .inl rfl⟩
    · exact ⟨y, hy, .inr rfl⟩

lemma mem_joined_iff : id ∈ hs.filterMap joined? ↔ .added id ∈ hs ∨ .subscribed id ∈ hs :=
  mem_view_or_iff fun _ => joined?_eq_some_iff

lemma mem_left_iff : id ∈ hs.filterMap left? ↔ .removed id ∈ hs ∨ .released id ∈ hs :=
  mem_view_or_iff fun _ => left?_eq_some_iff

lemma added_sublist_joined (hs : List (Happening ε)) :
    (hs.filterMap added?).Sublist (hs.filterMap joined?) := by
  induction hs with
  | nil => exact List.Sublist.refl []
  | cons h hs ih =>
      cases h with
      | added id => exact ih.cons_cons id
      | subscribed id => exact ih.cons id
      | _ => exact ih

end Members

section Numbered

variable {hs before after : List (Happening ε)} {x : Happening ε} {id : ListenerId}

/-- Numbers are given in the order of addition. -/
abbrev Numbered (hs : List (Happening ε)) : Prop :=
  (hs.filterMap joined?).Pairwise (·.number < ·.number)

/-- A listener is added at one place of a history only. -/
lemma Numbered.once (h : Numbered hs) (heq : hs = before ++ x :: after)
    (hx : x.joined? = some id) :
    id ∉ before.filterMap joined? ∧ id ∉ after.filterMap joined? := by
  rw [Numbered, heq, List.filterMap_append, List.filterMap_cons_some hx,
    List.pairwise_append, List.pairwise_cons] at h
  constructor
  · exact fun hid => Nat.lt_irrefl _ (h.2.2 id hid id List.mem_cons_self)
  · exact fun hid => Nat.lt_irrefl _ (h.2.1.1 id hid)

/-- Two lists of listeners in the order of addition are the same if they have the same members. -/
lemma Numbered.eq_of_mem_iff (h : Numbered hs) {ids ids' : List ListenerId}
    (hids : ids.Sublist (hs.filterMap joined?)) (hids' : ids'.Sublist (hs.filterMap joined?))
    (hmem : ∀ id, id ∈ ids ↔ id ∈ ids') : ids = ids' := by
  have : Std.Antisymm fun i j : ListenerId => i.number < j.number :=
    ⟨fun i j hij hji => absurd hij (Nat.lt_asymm hji)⟩
  have : Std.Irrefl fun i j : ListenerId => i.number < j.number :=
    ⟨fun i => Nat.lt_irrefl i.number⟩
  exact (List.Pairwise.sublist hids h).eq_of_mem_iff (List.Pairwise.sublist hids' h) hmem

end Numbered

/-- Those who were added without a subscription and not removed since, in the order in which they
were added. -/
def standing : List (Happening ε) → List ListenerId
  | [] => []
  | .added id :: hs => if id ∈ hs.filterMap removed? then standing hs else id :: standing hs
  | _ :: hs => standing hs

/-- Nothing is used before it is given out. -/
def Earned (given used : Happening ε → Option ListenerId) (hs : List (Happening ε)) : Prop :=
  ∀ before, before <+: hs → before.filterMap used ⊆ before.filterMap given

instance (given used : Happening ε → Option ListenerId) (hs : List (Happening ε)) :
    Decidable (Earned given used hs) :=
  decidable_of_iff (∀ before ∈ hs.inits, before.filterMap used ⊆ before.filterMap given)
    (by simp only [List.mem_inits, Earned])

/-- Whoever was subscribed has been released. -/
abbrev AllReleased (hs : List (Happening ε)) : Prop :=
  hs.filterMap subscribed? ⊆ hs.filterMap released?

section Standing

variable {hs before after : List (Happening ε)} {x : Happening ε} {id : ListenerId}

lemma standing_sublist_added (hs : List (Happening ε)) :
    (standing hs).Sublist (hs.filterMap added?) := by
  induction hs with
  | nil => exact List.Sublist.refl []
  | cons h hs ih =>
      cases h with
      | added id =>
          rw [standing]
          split
          · exact ih.cons id
          · exact ih.cons_cons id
      | _ => exact ih

lemma mem_standing_cons :
    id ∈ standing (x :: hs) ↔ (x = .added id ∧ .removed id ∉ hs) ∨ id ∈ standing hs := by
  cases x with
  | added other =>
      rw [standing, Happening.added.injEq]
      split
      next hremoved =>
        rw [mem_removed_iff] at hremoved
        refine (or_iff_right ?_).symm
        rintro ⟨rfl, hid⟩
        exact hid hremoved
      next hremoved =>
        rw [mem_removed_iff] at hremoved
        rw [List.mem_cons, eq_comm]
        refine or_congr_left ⟨?_, And.left⟩
        rintro rfl
        exact ⟨rfl, hremoved⟩
  | _ => simp [standing]

lemma mem_standing_iff :
    id ∈ standing hs ↔
      ∃ before after, hs = before ++ .added id :: after ∧ .removed id ∉ after := by
  induction hs with
  | nil => simp [standing]
  | cons h hs ih =>
      rw [mem_standing_cons, ih]
      constructor
      · rintro (⟨rfl, hafter⟩ | ⟨before, after, rfl, hafter⟩)
        · exact ⟨[], hs, rfl, hafter⟩
        · exact ⟨h :: before, after, rfl, hafter⟩
      · rintro ⟨before, after, heq, hafter⟩
        cases before with
        | nil =>
            obtain ⟨rfl, rfl⟩ := List.cons.inj heq
            exact .inl ⟨rfl, hafter⟩
        | cons y before => exact .inr ⟨before, after, (List.cons.inj heq).2, hafter⟩

/-- What was given out to a new listener is used only afterwards. -/
lemma Earned.used_after {given used : Happening ε → Option ListenerId} (h : Earned given used hs)
    (hgiven : ∀ x id, given x = some id → x.joined? = some id) (hnumbered : Numbered hs)
    (heq : hs = before ++ x :: after) (hx : x.joined? = some id) (hunused : used x = none)
    (hid : id ∈ hs.filterMap used) : id ∈ after.filterMap used := by
  rw [heq, List.filterMap_append, List.filterMap_cons_none hunused, List.mem_append] at hid
  rcases hid with hid | hid
  · obtain ⟨y, hy, hyid⟩ := List.mem_filterMap.mp (h before ⟨_, heq.symm⟩ hid)
    have hjoined : id ∈ before.filterMap joined? :=
      List.mem_filterMap.mpr ⟨y, hy, hgiven y id hyid⟩
    exact absurd hjoined (hnumbered.once heq hx).1
  · exact hid

/-- Who was added without a subscription is not released. -/
lemma Earned.not_released (h : Earned subscribed? released? hs) (hnumbered : Numbered hs)
    (heq : hs = before ++ .added id :: after) : .released id ∉ hs := by
  intro hid
  have hsubscribed := h hs List.prefix_rfl (mem_released_iff.mpr hid)
  obtain ⟨hbefore, hafter⟩ := hnumbered.once heq rfl
  rw [mem_joined_iff, not_or] at hbefore hafter
  rw [mem_subscribed_iff, heq, List.mem_append, List.mem_cons] at hsubscribed
  rcases hsubscribed with hid | hid | hid
  · exact hbefore.2 hid
  · cases hid
  · exact hafter.2 hid

/-- When all subscriptions have been released, those who listen were added without one. -/
lemma living_eq_standing (hnumbered : Numbered hs) (hearned : Earned subscribed? released? hs)
    (hall : AllReleased hs) : living hs = standing hs := by
  refine hnumbered.eq_of_mem_iff (living_sublist_joined hs)
    ((standing_sublist_added hs).trans (added_sublist_joined hs)) fun id => ?_
  rw [mem_living_iff, mem_standing_iff]
  constructor
  · rintro ⟨before, x, after, heq, hx, hafter⟩
    rw [mem_left_iff, not_or] at hafter
    rcases joined?_eq_some_iff.mp hx with rfl | rfl
    · exact ⟨before, after, heq, hafter.1⟩
    · have hreleased : id ∈ hs.filterMap released? :=
        hall (mem_subscribed_iff.mpr (by simp [heq]))
      have hlater :=
        hearned.used_after (fun _ _ => joined?_of_subscribed?) hnumbered heq rfl rfl hreleased
      exact absurd (mem_released_iff.mp hlater) hafter.2
  · rintro ⟨before, after, heq, hafter⟩
    refine ⟨before, .added id, after, heq, rfl, ?_⟩
    rw [mem_left_iff, not_or]
    refine ⟨hafter, fun hreleased => hearned.not_released hnumbered heq ?_⟩
    simp [heq, hreleased]

/-- Who was not removed since was never removed. -/
lemma standing_eq_filter (hnumbered : Numbered hs) (hearned : Earned joined? removed? hs) :
    standing hs = (hs.filterMap added?).filter fun id => id ∉ hs.filterMap removed? := by
  have hadded := added_sublist_joined hs
  refine hnumbered.eq_of_mem_iff ((standing_sublist_added hs).trans hadded)
    (List.filter_sublist.trans hadded) fun id => ?_
  rw [mem_standing_iff, List.mem_filter, decide_eq_true_iff, mem_added_iff]
  constructor
  · rintro ⟨before, after, heq, hafter⟩
    refine ⟨by simp [heq], fun hremoved => hafter ?_⟩
    exact mem_removed_iff.mp
      (hearned.used_after (fun _ _ hx => hx) hnumbered heq rfl rfl hremoved)
  · rintro ⟨hadded, hremoved⟩
    obtain ⟨before, after, rfl⟩ := List.append_of_mem hadded
    exact ⟨before, after, rfl, fun hafter => hremoved (mem_removed_iff.mpr (by simp [hafter]))⟩

end Standing

/-- Those who would listen if the bus were settled now. -/
abbrev roll (bus : Bus ε β) : List (Listener β) := bus.settle.listeners

lemma roll_eq (bus : Bus ε β) :
    bus.roll = bus.listeners.filter (fun l => l.id ∉ bus.removals) ++ bus.additions := by
  simp [roll, settle, retire, join]

lemma roll_retire (bus : Bus ε β) : bus.retire.roll = bus.roll := by
  simp [roll_eq, retire]

lemma roll_remove {bus : Bus ε β} (h : bus.emitting = false → bus.Ready) (id : ListenerId) :
    (bus.remove id).roll = bus.roll.filter (·.id ≠ id) := by
  unfold remove
  split
  next => simp [roll_eq, List.filter_filter, not_or, Bool.and_comm]
  next he =>
    have hready := h (by simpa using he)
    simp [roll_eq, hready.additions, List.filter_filter, Bool.and_comm]

/-- Those on the bus whose removal waits. -/
def overdue (bus : Bus ε β) : List (Listener β) :=
  bus.listeners.filter fun l => l.id ∈ bus.removals

lemma length_listeners {bus : Bus ε β} (h : bus.additions = []) :
    bus.listeners.length = bus.roll.length + bus.overdue.length := by
  rw [roll_eq, h, List.append_nil, overdue,
    List.length_eq_length_filter_add (l := bus.listeners) fun l => l.id ∈ bus.removals, Nat.add_comm]
  simp

/-- If somebody was taken off between two entries of a journal, nobody else was, and the others
kept their places. -/
def Moment.Follows (now previous : Moment ε β) : Prop :=
  ∀ id, now.happening.left? = some id → now.bus.roll = previous.bus.roll.filter (·.id ≠ id)

/-- What a step may do to the journal and to those who listen. -/
inductive Entered (w w' : World σ ε β) : Prop
  | nothing (hjournal : w'.journal = w.journal) (hroll : w'.bus.roll = w.bus.roll)
  | entry (x : Happening ε) (hjournal : w'.journal = ⟨x, w'.bus⟩ :: w.journal)
      (hleft : ∀ id, x.left? = some id → w'.bus.roll = w.bus.roll.filter (·.id ≠ id))

lemma Entered.note {w : World σ ε β} (bus : Bus ε β) {x : Happening ε} (hx : x.left? = none) :
    Entered w ({ w with bus }.note x) :=
  .entry x rfl (by simp [hx])

lemma Entered.note_left {w : World σ ε β} (hready : w.bus.emitting = false → w.bus.Ready)
    {x : Happening ε} {id : ListenerId} (hl : x.left? = some id) :
    Entered w ({ w with bus := w.bus.remove id }.note x) := by
  refine .entry x rfl fun id' hl' => ?_
  obtain rfl : id = id' := Option.some.inj (hl.symm.trans hl')
  exact roll_remove hready id

lemma Answered.entered {w w' : World σ ε β} {r : Request σ ε β} (h : Answered w r w')
    (hready : w.bus.emitting = false → w.bus.Ready) : Entered w w' := by
  cases h with
  | quiet memory => exact .nothing rfl rfl
  | joined body x hj => exact .note _ (left?_of_joined hj)
  | left id x hl =>
      exact .note_left hready hl
  | emitted e => exact .note _ rfl

lemma Step.entered {s t : Stage ε β × World σ ε β} (hstep : Step owning s t)
    (hp : Poised owning s.1 s.2) : Entered s.2 t.2 := by
  cases hstep with
  | answer r hr => exact (World.answered _ r).entered hp.ready_of_idle
  | request r => exact (World.answered _ r).entered hp.ready_of_idle
  | emit e => exact .note _ rfl
  | start e => exact .note _ rfl
  | skip hl => exact .nothing rfl rfl
  | call hl => exact .note _ rfl
  | «return» => exact .note _ rfl
  | retire => exact .nothing rfl (roll_retire _)
  | letGo ho hid => exact .note_left hp.ready_of_idle rfl
  | join => exact .note _ rfl
  | next hq => exact .nothing rfl rfl
  | finish hq => exact .nothing rfl rfl

/-- The journal tells everything about those who listen, up to now. -/
structure Kept (w : World σ ε β) : Prop where
  current : ∀ m ∈ w.journal.head?, w.bus.roll = m.bus.roll
  follow : w.journal.IsChain Moment.Follows

lemma Kept.entered {w w' : World σ ε β} (h : Kept w) (he : Entered w w') : Kept w' := by
  cases he with
  | nothing hjournal hroll =>
      constructor
      · rw [hjournal, hroll]
        exact h.current
      · rw [hjournal]
        exact h.follow
  | entry x hjournal hleft =>
      constructor
      · simp [hjournal]
      · rw [hjournal, List.isChain_cons]
        refine ⟨?_, h.follow⟩
        intro m hm id hx
        exact (hleft id hx).trans (congrArg _ (h.current m hm))

/-- A release changes nothing about the calls that a round owes to the others. -/
lemma owed_of_left {x : Happening ε} {id : ListenerId} (hx : x.left? = some id) (e : ε)
    (ids : List ListenerId) (body more : List (Happening ε)) :
    (owed e ids (body ++ x :: more)).filter (·.1 ≠ id) =
      (owed e ids (body ++ more)).filter (·.1 ≠ id) := by
  have hcall := call?_of_isRequest (request_of_left hx).1
  have hturn : ∀ other, beforeTurn other (x :: more) = x :: beforeTurn other more := by
    intro other
    simp [beforeTurn, hcall]
  have hleft : ∀ other, other ≠ id →
      (other ∈ (beforeTurn other (body ++ x :: more)).filterMap left? ↔
        other ∈ (beforeTurn other (body ++ more)).filterMap left?) := by
    intro other hother
    rw [beforeTurn_append, beforeTurn_append, hturn]
    split
    next => simp [List.filterMap_append, List.filterMap_cons_some hx, hother]
    next => rfl
  unfold owed
  rw [List.filter_map, List.filter_map, List.filter_filter, List.filter_filter]
  congr 1
  apply List.filter_congr
  intro other _
  by_cases hother : other = id
  · simp [hother]
  · simp [hother, hleft other hother]

/-- A world in which everybody whose subscription was released went by it, and nobody else. -/
structure TornDown (w : World σ ε β) : Prop where
  /-- Who was released is not called again. -/
  silent : ∀ {before id after}, w.happenings = before ++ .released id :: after →
    .subscribed id ∈ before → ∀ e, .called id e ∉ after
  /-- The others stay on the bus, in their order. -/
  alone : ∀ {later id bus previous earlier},
    w.journal = later ++ ⟨.released id, bus⟩ :: previous :: earlier →
      bus.roll = previous.bus.roll.filter (·.id ≠ id)
  /-- If this happens in a round, the round calls the others as if it had not. -/
  undisturbed : ∀ {before e body id more},
    IsRound w.happenings before e (body ++ .released id :: more) →
      ((body ++ .released id :: more).filterMap call?).filter (·.1 ≠ id) =
        (owed e (living before) (body ++ more)).filter (·.1 ≠ id)

/-- What is true of every stage of every run, the neighbours in the journal included. -/
structure Recorded (owning : Prop) (s : Stage ε β × World σ ε β) : Prop where
  sound : Sound owning s
  kept : Kept s.2

lemma Recorded.step {s t : Stage ε β × World σ ε β} (hstep : Step owning s t)
    (h : Recorded owning s) : Recorded owning t where
  sound := h.sound.step hstep
  kept := h.kept.entered (hstep.entered h.sound.poised)

lemma Recorded.start (memory : σ) :
    Recorded owning (.outside, ({ memory } : World σ ε β)) where
  sound := .start memory
  kept := ⟨by simp, .nil⟩

lemma Recorded.tornDown {s : Stage ε β × World σ ε β} (h : Recorded owning s) : TornDown s.2 where
  silent heq hsubscribed e hcall :=
    h.sound.faithful.gone heq rfl (mem_joined_iff.mpr (.inr hsubscribed)) e
      (List.mem_filterMap.mpr ⟨_, hcall, rfl⟩)
  alone heq := by
    have hfollow := h.kept.follow
    rw [heq, List.isChain_append_cons_cons] at hfollow
    exact hfollow.2.1 _ rfl
  undisturbed hround := by
    rw [h.sound.faithful.served hround]
    exact owed_of_left rfl _ _ _ _

/-- Outside of an emission the bus counts whoever listens and whoever is overdue. -/
lemma Sound.count_outside {w : World σ ε β} (h : Sound owning (.outside, w)) :
    w.bus.count = (living w.happenings).length + w.bus.overdue.length := by
  have hidle : w.bus.emitting = false := h.poised.emitting
  have hadditions : w.bus.additions = [] := h.poised.additions rfl
  have hliving : w.bus.roll.length = (living w.happenings).length := by
    rw [← h.registered.present, present, List.length_map]
  rw [← hliving, ← length_listeners hadditions]
  simp [count, hidle, hadditions]

section RestsAt

variable {owns : σ → Listener β → List Subscription} {respond : β → ε → Program σ ε β Unit}
  {limit : ℕ} {p : Program σ ε β α} {memory : σ} {w : World σ ε β}

lemma Owning.RestsAt.sound (h : RestsAt owns respond limit p { memory } w) :
    Sound True (.outside, w) :=
  h.steps.preserve Sound.step (Sound.start memory)

lemma Owning.RestsAt.removals (h : RestsAt owns respond limit p { memory } w)
    (howns : ∀ memory l, owns memory l = []) : w.bus.removals = [] :=
  ((h.steps_of_owns_nothing howns).preserve Poised.step (Poised.start memory)).removals
    not_false rfl

end RestsAt

/-- In every run of a bus, whoever listens, be it a registry of shortcuts or anything else, and
whatever the listeners own, a listener goes when its subscription is released, and nobody else
does. From outside no addition is ever left waiting, and no removal but of listeners that were
released by others that left. Once all subscriptions that were given out have been released, those
who are not overdue are the listeners that were added without one and not removed since, or not
removed at all. If nobody owns a subscription nobody is ever overdue, so that these are all that
are on the bus and all that are counted. -/
theorem subscriptions_torn_down (owns : σ → Listener β → List Subscription)
    (respond : β → ε → Program σ ε β Unit) (limit : Nat) (p : Program σ ε β α) (memory : σ) :
    TornDown (World.reached (Owning.perform owns respond limit p { memory })) ∧
      ∀ a w, Owning.perform owns respond limit p { memory } = .ok (a, w) →
        w.bus.additions = [] ∧
        (∀ id ∈ w.bus.removals, .released id ∈ w.happenings) ∧
        ((∀ m l, owns m l = []) → w.bus.removals = []) ∧
        (Earned subscribed? released? w.happenings → AllReleased w.happenings →
          (w.bus.listeners.filter fun l => l.id ∉ w.bus.removals).map Listener.id =
            standing w.happenings ∧
          w.bus.count = (standing w.happenings).length + w.bus.overdue.length ∧
          (w.bus.removals = [] → w.bus.listeners.map Listener.id = standing w.happenings ∧
            w.bus.count = (standing w.happenings).length) ∧
          (Earned joined? removed? w.happenings →
            standing w.happenings = (w.happenings.filterMap added?).filter
              fun id => id ∉ w.happenings.filterMap removed?)) := by
  constructor
  · obtain ⟨stage, hsteps⟩ := Owning.reached_steps owns respond limit p { memory }
    exact (hsteps.preserve Recorded.step (Recorded.start memory)).tornDown
  intro a w hp
  have hrests := Owning.restsAt_of_perform hp
  have hw := hrests.sound
  have hadditions : w.bus.additions = [] := hw.poised.additions rfl
  refine ⟨hadditions, fun id hid => (hw.poised.late rfl id hid).released, hrests.removals, ?_⟩
  intro hearned hall
  have hroll : w.bus.roll.map Listener.id = standing w.happenings :=
    hw.registered.present.trans (living_eq_standing hw.registered.joined_sorted hearned hall)
  have hcount : w.bus.count = (standing w.happenings).length + w.bus.overdue.length := by
    rw [hw.count_outside, living_eq_standing hw.registered.joined_sorted hearned hall]
  rw [roll_eq, hadditions, List.append_nil] at hroll
  refine ⟨hroll, hcount, fun hcalm => ⟨?_, ?_⟩, standing_eq_filter hw.registered.joined_sorted⟩
  · rw [← hroll, hcalm]
    simp
  · rw [hcount, overdue, hcalm]
    simp

/-- The host subscribes a guest, removes and releases it in the same round, and adds a friend.
The keys release themselves when Escape is pressed. -/
def household : Script.Cast :=
  [("host", .plain [{ limit := some 1, actions :=
      [.subscribe "guest" "keys", .add "friend" "nobody", .remove "guest", .drop "guest"] }]),
    ("keys", .shortcuts .other [("Escape", [.unsubscribe "keys"])])]

def visit : Script.Play Unit := do
  Script.play household (.add "host" "host")
  Script.play household (.subscribe "keys" "keys")
  Script.play household (.emit { label := "Escape" })
  Script.play household (.emit { label := "Escape" })

/-- What has happened after the visit. -/
def visited : World Script.Stage KeyEvent Script.Actor :=
  World.reached (visit.perform (Script.respond household) 0 { memory := {} })

/-- The keys are called once and the guest never. The friend and the host stay. -/
theorem host_and_friend_stay :
    visit.perform (Script.respond household) 0 { memory := {} } = .ok ((), visited) ∧
      visited.happenings.filterMap released? = [⟨2⟩, ⟨1⟩] ∧
      (∃ before after, visited.happenings = before ++ .released ⟨1⟩ :: after ∧
        .called ⟨1⟩ { label := "Escape" } ∈ before ∧ ∀ e, .called ⟨1⟩ e ∉ after) ∧
      visited.bus.listeners.map Listener.id = [⟨0⟩, ⟨3⟩] ∧ visited.bus.count = 2 := by
  obtain ⟨htorn, hdone⟩ :=
    subscriptions_torn_down (fun _ _ => []) (Script.respond household) 0 visit {}
  rw [Owning.perform_of_owns_nothing fun _ _ => rfl] at htorn hdone
  have hvisited :
      visit.perform (Script.respond household) 0 { memory := {} } = .ok ((), visited) := rfl
  obtain ⟨-, -, hcalm, hlisteners⟩ := hdone () visited hvisited
  obtain ⟨-, -, hnobody, hnever⟩ := hlisteners (by decide +kernel) (by decide +kernel)
  obtain ⟨hids, hcount⟩ := hnobody (hcalm fun _ _ => rfl)
  have hstanding : standing visited.happenings = [⟨0⟩, ⟨3⟩] :=
    (hnever (by decide +kernel)).trans (by decide +kernel)
  have hheld : visited.happenings =
      [.added ⟨0⟩, .subscribed ⟨1⟩, .emitted { label := "Escape" },
        .roundBegan { label := "Escape" }, .called ⟨0⟩ { label := "Escape" }, .subscribed ⟨2⟩,
        .added ⟨3⟩, .removed ⟨2⟩, .released ⟨2⟩, .returned ⟨0⟩,
        .called ⟨1⟩ { label := "Escape" }] ++
      .released ⟨1⟩ :: [.returned ⟨1⟩, .roundEnded { label := "Escape" },
        .emitted { label := "Escape" }, .roundBegan { label := "Escape" },
        .called ⟨0⟩ { label := "Escape" }, .returned ⟨0⟩, .called ⟨3⟩ { label := "Escape" },
        .returned ⟨3⟩, .roundEnded { label := "Escape" }] := rfl
  refine ⟨hvisited, by decide +kernel, ⟨_, _, hheld, by simp, ?_⟩, ?_, ?_⟩
  · exact htorn.silent hheld (by simp)
  · rw [hids, hstanding]
  · rw [hcount, hstanding]
    rfl

/-- A guest that is subscribed, somebody who holds the guest's subscription, and an usher. -/
inductive Party where
  | guest
  | holder
  | usher

def Party.holds (_ : Unit) (l : Listener Party) : List Subscription :=
  match l.body with
  | holder => [⟨⟨0⟩⟩]
  | _ => []

/-- The usher takes the holder off. -/
def Party.respond : Party → ℕ → Program Unit ℕ Party Unit
  | usher, _ => Program.remove ⟨1⟩
  | _, _ => pure ()

def Party.meet : Program Unit ℕ Party Unit := do
  let _ ← Program.subscribe .guest
  let _ ← Program.add .holder
  let _ ← Program.add .usher

/-- The guest's subscription is released when the holder has left, and no other is held. The usher is
the only one who was added and not removed, but the guest is still on the bus. If the holder is
taken off from outside, the run is broken off. -/
theorem guest_outstays_release :
    (¬ ∀ a w, Owning.perform Party.holds Party.respond 0 (do Party.meet; Program.emit 0)
        { memory := () } = .ok (a, w) →
      Earned subscribed? released? w.happenings → AllReleased w.happenings →
        w.bus.listeners.map Listener.id = standing w.happenings ∧
        w.bus.count = (standing w.happenings).length) ∧
    (Owning.perform Party.holds Party.respond 0 (do Party.meet; Program.remove ⟨1⟩)
      { memory := () }).isOk = false := by
  refine ⟨fun h => ?_, rfl⟩
  obtain ⟨hlisteners, -⟩ := h () _ rfl (by decide +kernel) (by decide +kernel)
  exact absurd hlisteners (by decide +kernel)

end Keychord.Bus
