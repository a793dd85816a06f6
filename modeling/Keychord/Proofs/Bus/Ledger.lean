import Keychord.Proofs.Bus.Steps

/-!
# What a bus keeps

Additions and removals wait while an event is being delivered, each in a list of its own. The
listeners that the bus would have if it were settled now are nevertheless, after every step,
exactly those that the journal says are listening, in the order in which they were added. The
numbers on the bus are always some of those that were given out, in the order in which they were
given out.

Between two rounds no addition waits. Nor does a removal, unless listeners own subscriptions: what
is released at the end of a round, when those who own it leave, waits on.
-/
namespace Keychord.Bus

variable {σ ε β : Type} {owning : Prop}

open Happening

/-- No addition and no removal waits. -/
def Calm (bus : Bus ε β) : Prop :=
  bus.additions = [] ∧ bus.removals = []

/-- No addition waits, and removals only of listeners that have been added. -/
structure Ready (bus : Bus ε β) : Prop where
  additions : bus.additions = []
  given : ∀ id ∈ bus.removals, id.number < bus.nextId

/-- The numbers of those who would listen if the bus were settled now. -/
def present (bus : Bus ε β) : List ListenerId :=
  bus.settle.listeners.map Listener.id

lemma present_eq (bus : Bus ε β) :
    bus.present = (bus.listeners.map Listener.id).filter (fun id => id ∉ bus.removals) ++
      bus.additions.map Listener.id := by
  simp [present, settle, retire, join, List.filter_map, Function.comp_def]

lemma present_of_calm {bus : Bus ε β} (h : bus.Calm) :
    bus.present = bus.listeners.map Listener.id := by
  rw [present_eq, h.1, h.2]
  simp

@[simp] lemma present_retire (bus : Bus ε β) : bus.retire.present = bus.present := by
  simp [present_eq, retire, List.filter_map, Function.comp_def]

/-- If no addition is to be taken off again, all are present once they have joined. -/
lemma present_join {bus : Bus ε β}
    (h : ∀ id ∈ bus.removals, id ∉ bus.additions.map Listener.id) :
    bus.join.present = bus.present := by
  have hkept : (bus.additions.map Listener.id).filter (fun id => id ∉ bus.removals) =
      bus.additions.map Listener.id :=
    List.filter_eq_self.mpr fun id hid => by simpa using fun hremoved => h id hremoved hid
  rw [present_eq, present_eq, ← hkept, ← List.filter_append, ← List.map_append]
  exact List.append_nil _

lemma present_add {bus : Bus ε β} (h : bus.emitting = false → bus.Ready) (body : β) :
    (bus.add body).2.present = bus.present ++ [⟨bus.nextId⟩] := by
  unfold add
  split
  next => simp [present_eq]
  next he =>
    have hready := h (by simpa using he)
    have hnew : (⟨bus.nextId⟩ : ListenerId) ∉ bus.removals :=
      fun hremoved => Nat.lt_irrefl _ (hready.given _ hremoved)
    simp [present_eq, hready.additions, hnew]

lemma present_remove {bus : Bus ε β} (h : bus.emitting = false → bus.Ready) (id : ListenerId) :
    (bus.remove id).present = bus.present.filter (· ≠ id) := by
  unfold remove
  split
  next =>
    simp [present_eq, List.filter_map, Function.comp_def, List.filter_filter, not_or, and_comm]
  next he =>
    have hready := h (by simpa using he)
    simp [present_eq, hready.additions, List.filter_map, Function.comp_def, List.filter_filter,
      Bool.and_comm]

lemma ids_add {bus : Bus ε β} (h : bus.emitting = false → bus.Ready) (body : β) :
    (bus.add body).2.ids = bus.ids ++ [⟨bus.nextId⟩] := by
  unfold add
  split
  next => simp [ids]
  next he =>
    have hready := h (by simpa using he)
    simp [ids, hready.additions]

lemma ids_remove_sublist (bus : Bus ε β) (id : ListenerId) :
    (bus.remove id).ids.Sublist bus.ids := by
  unfold remove ids
  split
  next => exact (List.filter_sublist.append_left _).map _
  next => exact (List.filter_sublist.append_right _).map _

lemma ids_retire_sublist (bus : Bus ε β) : bus.retire.ids.Sublist bus.ids :=
  (List.filter_sublist.append_right _).map _

@[simp] lemma ids_join (bus : Bus ε β) : bus.join.ids = bus.ids := by
  simp [ids, join]

/-- An emission from outside is going on. -/
def Stage.emitting : Stage ε β → Bool
  | outside => false
  | _ => true

/-- A round is going on. -/
def Stage.delivering : Stage ε β → Bool
  | turns _ _ | inside _ _ _ | leaving _ => true
  | _ => false

/-- Listeners have their turns. -/
def Stage.calling : Stage ε β → Bool
  | turns _ _ | inside _ _ _ => true
  | _ => false

lemma Stage.calling_of_delivering {s : Stage ε β} (h : s.delivering = false) :
    s.calling = false := by
  cases s <;> first | rfl | cases h

/-- A removal that is carried out later than it should be: the listener has been released, and it
is not one that is still to join. -/
structure Late (w : World σ ε β) (id : ListenerId) : Prop where
  given : id.number < w.bus.nextId
  joined : id ∉ w.bus.additions.map Listener.id
  released : .released id ∈ w.happenings

structure Poised (owning : Prop) (s : Stage ε β) (w : World σ ε β) : Prop where
  emitting : w.bus.emitting = s.emitting
  additions : s.delivering = false → w.bus.additions = []
  late : s.calling = false → ∀ id ∈ w.bus.removals, Late w id
  removals : ¬ owning → s.calling = false → w.bus.removals = []

lemma Poised.ready {s : Stage ε β} {w : World σ ε β} (h : Poised owning s w)
    (hs : s.delivering = false) : w.bus.Ready where
  additions := h.additions hs
  given id hid := (h.late (Stage.calling_of_delivering hs) id hid).given

lemma Poised.ready_of_idle {s : Stage ε β} {w : World σ ε β} (h : Poised owning s w)
    (he : w.bus.emitting = false) : w.bus.Ready := by
  have hs : s.emitting = false := h.emitting ▸ he
  cases s with
  | outside => exact h.ready rfl
  | _ => cases hs

/-- What is late remains so when the bus and the journal grow. -/
lemma Late.mono {w w' : World σ ε β} {id : ListenerId} (h : Late w id)
    (hnext : w.bus.nextId ≤ w'.bus.nextId)
    (hadditions : w'.bus.additions.Sublist w.bus.additions)
    (hjournal : w.happenings ⊆ w'.happenings) : Late w' id where
  given := h.given.trans_le hnext
  joined hid := h.joined ((hadditions.map Listener.id).subset hid)
  released := hjournal h.released

lemma subset_note (w : World σ ε β) (x : Happening ε) : w.happenings ⊆ (w.note x).happenings := by
  rw [World.happenings_note]
  exact List.subset_append_left _ _

/-- What neither lets anything wait nor carries anything out. -/
lemma Poised.kept {s t : Stage ε β} {w w' : World σ ε β} (h : Poised owning s w)
    (hs : s.delivering = false) (hemitting : w'.bus.emitting = t.emitting)
    (hadditions : w'.bus.additions = w.bus.additions)
    (hremovals : w'.bus.removals = w.bus.removals) (hnext : w.bus.nextId ≤ w'.bus.nextId)
    (hjournal : w.happenings ⊆ w'.happenings) : Poised owning t w' := by
  have hcalling := Stage.calling_of_delivering hs
  refine ⟨hemitting, fun _ => hadditions.trans (h.additions hs), fun _ id hid => ?_,
    fun howning _ => hremovals.trans (h.removals howning hcalling)⟩
  rw [hremovals] at hid
  exact (h.late hcalling id hid).mono hnext (hadditions ▸ List.Sublist.refl _) hjournal

/-- A request from outside. -/
lemma Poised.answered {w w' : World σ ε β} {r : Request σ ε β} (h : Poised owning .outside w)
    (ha : Answered w r w') : Poised owning .outside w' := by
  have hidle : w.bus.emitting = false := h.emitting
  have hemitting := ha.emitting.trans hidle
  cases ha with
  | quiet memory => exact h.kept rfl hemitting rfl rfl le_rfl (List.Subset.refl _)
  | joined body x hj =>
      exact h.kept rfl hemitting (by simp [add, hidle]) (by simp [add, hidle])
        (by simp) (subset_note { w with bus := (w.bus.add body).2 } x)
  | left id x hl =>
      exact h.kept rfl hemitting (by simp [remove, hidle]) (by simp [remove, hidle])
        (by simp) (subset_note { w with bus := w.bus.remove id } x)
  | emitted e => exact h.kept rfl hemitting rfl rfl le_rfl (subset_note _ _)

/-- While listeners have their turns anything may wait. -/
lemma Poised.of_calling {s : Stage ε β} {w : World σ ε β} (hs : s.calling = true)
    (hemitting : w.bus.emitting = true) : Poised owning s w := by
  have hstage : s.emitting = true ∧ s.delivering = true := by
    cases s <;> first | exact ⟨rfl, rfl⟩ | cases hs
  refine ⟨hemitting.trans hstage.1.symm, fun hd => ?_, fun hc => ?_, fun _ hc => ?_⟩
  · simp [hstage.2] at hd
  · simp [hs] at hc
  · simp [hs] at hc

/-- A release by a listener that leaves: it waits, unless the other was still to join. -/
lemma Poised.letGo {e : ε} {w : World σ ε β} (h : Poised owning (.leaving e) w) (ho : owning)
    {id : ListenerId} (hid : id.number < w.bus.nextId) :
    Poised owning (.leaving e) ({ w with bus := w.bus.remove id }.note (.released id)) := by
  have hemitting : w.bus.emitting = true := h.emitting
  have hadditions : (w.bus.remove id).additions = w.bus.additions.filter (·.id ≠ id) := by
    simp [remove, hemitting]
  have hremovals : (w.bus.remove id).removals = w.bus.removals ++ [id] := by
    simp [remove, hemitting]
  refine ⟨(emitting_remove _ _).trans h.emitting, nofun, fun _ other hother => ?_,
    fun hnot => absurd ho hnot⟩
  rw [World.bus_note, hremovals, List.mem_append, List.mem_singleton] at hother
  rcases hother with hother | rfl
  · refine (h.late rfl other hother).mono (by simp) ?_ (subset_note _ _)
    exact hadditions ▸ List.filter_sublist
  · refine ⟨by simpa using hid, ?_, by simp⟩
    rw [World.bus_note, hadditions]
    simp

lemma Poised.step {s t : Stage ε β × World σ ε β} (hstep : Step owning s t)
    (h : Poised owning s.1 s.2) : Poised owning t.1 t.2 := by
  cases hstep with
  | answer r hr => exact h.answered (World.answered _ r)
  | emit e => exact h.kept rfl rfl rfl rfl le_rfl (subset_note _ _)
  | start e => exact .of_calling rfl h.emitting
  | skip hl => exact .of_calling rfl h.emitting
  | call hl => exact .of_calling rfl h.emitting
  | request r => exact .of_calling rfl ((World.answered _ r).emitting.trans h.emitting)
  | «return» => exact .of_calling rfl h.emitting
  | retire => exact ⟨h.emitting, nofun, nofun, fun _ _ => rfl⟩
  | letGo ho hid => exact h.letGo ho hid
  | join =>
      refine ⟨h.emitting, fun _ => rfl, fun _ id hid => ?_, fun howning _ => h.removals howning rfl⟩
      exact (h.late rfl id hid).mono le_rfl (List.nil_sublist _) (subset_note _ _)
  | next hq => exact h.kept rfl h.emitting rfl rfl le_rfl (List.Subset.refl _)
  | finish hq => exact h.kept rfl rfl rfl rfl le_rfl (List.Subset.refl _)

lemma Poised.start (memory : σ) : Poised owning .outside ({ memory } : World σ ε β) where
  emitting := rfl
  additions _ := rfl
  late _ _ := nofun
  removals _ _ := rfl

structure Registered (w : World σ ε β) : Prop where
  joined : w.happenings.filterMap joined? = (List.range w.bus.nextId).map ListenerId.mk
  present : w.bus.present = living w.happenings
  /-- The numbers on the bus stand there in the order in which they were given out. -/
  stored : w.bus.ids.Sublist (w.happenings.filterMap joined?)

/-- What touches nobody's place on the bus. -/
lemma Registered.note {w : World σ ε β} (h : Registered w) {bus : Bus ε β} {x : Happening ε}
    (hnext : bus.nextId = w.bus.nextId) (hpresent : bus.present = w.bus.present)
    (hids : bus.ids.Sublist w.bus.ids) (hj : x.joined? = none) (hl : x.left? = none) :
    Registered ({ w with bus }.note x) := by
  have hjoined : ({ w with bus }.note x).happenings.filterMap joined? =
      w.happenings.filterMap joined? := by
    rw [World.happenings_note, List.filterMap_append]
    simp [hj]
  refine ⟨?_, ?_, ?_⟩
  · rw [hjoined, h.joined, World.bus_note, hnext]
  · rw [World.happenings_note, living_concat, register_of_none _ hj hl]
    exact hpresent.trans h.present
  · rw [hjoined]
    exact hids.trans h.stored

/-- Somebody is taken off, or would be. -/
lemma Registered.note_left {w : World σ ε β} (h : Registered w)
    (hready : w.bus.emitting = false → w.bus.Ready) {x : Happening ε} {id : ListenerId}
    (hl : x.left? = some id) : Registered ({ w with bus := w.bus.remove id }.note x) := by
  have hjoined : ({ w with bus := w.bus.remove id }.note x).happenings.filterMap joined? =
      w.happenings.filterMap joined? := by
    rw [World.happenings_note, List.filterMap_append]
    simp [joined?_of_left hl]
  refine ⟨?_, ?_, ?_⟩
  · rw [hjoined, h.joined, World.bus_note, nextId_remove]
  · rw [World.happenings_note, living_concat, register_of_left _ hl]
    exact (present_remove hready id).trans (congrArg _ h.present)
  · rw [hjoined]
    exact (ids_remove_sublist _ _).trans h.stored

lemma Registered.answered {w w' : World σ ε β} {r : Request σ ε β} (h : Registered w)
    (hready : w.bus.emitting = false → w.bus.Ready) (ha : Answered w r w') : Registered w' := by
  cases ha with
  | quiet memory => exact ⟨h.joined, h.present, h.stored⟩
  | joined body x hj =>
      have hjoined : ({ w with bus := (w.bus.add body).2 }.note x).happenings.filterMap joined? =
          w.happenings.filterMap joined? ++ [⟨w.bus.nextId⟩] := by
        rw [World.happenings_note, List.filterMap_append]
        simp [hj]
      refine ⟨?_, ?_, ?_⟩
      · rw [hjoined, h.joined, World.bus_note, nextId_add, List.range_succ, List.map_append]
        rfl
      · rw [World.happenings_note, living_concat, register_of_joined _ hj]
        exact (present_add hready body).trans (congrArg (· ++ [_]) h.present)
      · rw [hjoined, World.bus_note, ids_add hready]
        exact h.stored.append (.refl _)
  | left id x hl => exact h.note_left hready hl
  | emitted e => exact h.note rfl rfl (.refl _) rfl rfl

lemma Registered.step {s t : Stage ε β × World σ ε β} (hstep : Step owning s t)
    (hp : Poised owning s.1 s.2) (h : Registered s.2) : Registered t.2 := by
  cases hstep with
  | answer r hr => exact h.answered hp.ready_of_idle (World.answered _ r)
  | emit e => exact h.note rfl rfl (.refl _) rfl rfl
  | start e => exact h.note rfl rfl (.refl _) rfl rfl
  | skip hl => exact h
  | call hl => exact h.note rfl rfl (.refl _) rfl rfl
  | request r => exact h.answered hp.ready_of_idle (World.answered _ r)
  | «return» => exact h.note rfl rfl (.refl _) rfl rfl
  | retire =>
      exact ⟨h.joined, (present_retire _).trans h.present, (ids_retire_sublist _).trans h.stored⟩
  | letGo ho hid => exact h.note_left hp.ready_of_idle rfl
  | join =>
      refine h.note rfl (present_join fun id hid => ?_) ?_ rfl rfl
      · exact (hp.late rfl id hid).joined
      · simp only [ids_join, List.Sublist.refl]
  | next hq => exact ⟨h.joined, h.present, h.stored⟩
  | finish hq => exact ⟨h.joined, h.present, h.stored⟩

/-- Numbers are given in the order of addition. -/
lemma Registered.joined_sorted {w : World σ ε β} (h : Registered w) :
    (w.happenings.filterMap joined?).Pairwise (·.number < ·.number) := by
  rw [h.joined, List.pairwise_map]
  exact List.pairwise_lt_range

/-- The listeners on the bus are in the order of their numbers. -/
lemma Registered.listeners_sorted {w : World σ ε β} (h : Registered w) :
    (w.bus.listeners.map Listener.id).Pairwise (·.number < ·.number) := by
  have hids : (w.bus.listeners.map Listener.id).Sublist w.bus.ids :=
    (List.sublist_append_left _ _).map _
  exact h.joined_sorted.sublist (hids.trans h.stored)

/-- At any time those who listen are in the order of their numbers. -/
lemma living_sorted {before hs : List (Happening ε)}
    (h : (hs.filterMap joined?).Pairwise (·.number < ·.number)) (hbefore : before <+: hs) :
    (living before).Pairwise (·.number < ·.number) :=
  h.sublist ((living_sublist_joined before).trans (hbefore.sublist.filterMap joined?))

end Keychord.Bus
