import Keychord.Proofs.Bus.Census
import Keychord.Proofs.Bus.Conduct
import Mathlib.Logic.Function.Basic

/-!
# Runs without passive listeners

A listener is passive if it does nothing, whatever it hears. A run in which some passive listeners
are absent is compared with the full run. The two differ in the numbers that listeners get, in who
waits to be added or removed, and in the calls of the passive listeners. In everything else they
stay the same from step to step, and the census of the full run tells which listener is which.

In the full run a member has the same number as its listener. In the run without the absent ones it
keeps that number, whatever number the bus gives to its listener.
-/
namespace Keychord.Bus

variable {ν ε β : Type}

namespace Census

/-- A listener that is present, as it is known in the full run and where some are absent. -/
structure Met (absent : Member β → Bool) (c : Census) (l l' : Listener (Member β)) : Prop where
  present : absent l.body = false
  same : c.Same l.id l'.id
  body : l'.body = l.body
  number : l.body.number = l.id.number

/-- A listener of the full run that is absent from the other one. -/
structure Missed (absent : Member β → Bool) (c : Census) (l : Listener (Member β)) : Prop where
  absent : absent l.body = true
  strange : c.Strange l.id.number
  number : l.body.number = l.id.number

/-- A name means nobody in either run, or the same listener in both, or one that is absent. -/
inductive Agree (c : Census) : Option ListenerId → Option ListenerId → Prop
  | vacant : Agree c none none
  | same {id id' : ListenerId} (h : c.Same id id') : Agree c (some id) (some id')
  | strange {id : ListenerId} (h : c.Strange id.number) : Agree c (some id) none

variable {absent : Member β → Bool} {c c' : Census} {l l' : Listener (Member β)}

lemma Met.extend (h : c.Met absent l l') (hc : c.Extends c') : c'.Met absent l l' :=
  { h with same := h.same.extend hc }

lemma Missed.extend (h : c.Missed absent l) (hc : c.Extends c') : c'.Missed absent l :=
  { h with strange := h.strange.extend hc }

lemma Agree.extend {id id' : Option ListenerId} (h : c.Agree id id') (hc : c.Extends c') :
    c'.Agree id id' := by
  cases h with
  | vacant => exact .vacant
  | same h => exact .same (h.extend hc)
  | strange h => exact .strange (h.extend hc)

end Census

/-- The buses of the two runs, their numbering aside. -/
structure SameBus (absent : Member β → Bool) (c : Census) (b b' : Bus ε (Member β)) : Prop where
  emitting : b'.emitting = b.emitting
  queue : b'.queue = b.queue
  listeners : Thinned (c.Missed absent) (c.Met absent) b.listeners b'.listeners
  additions : Thinned (c.Missed absent) (c.Met absent) b.additions b'.additions
  removals : Thinned (fun id => c.Strange id.number) c.Same b.removals b'.removals

/-- What the listeners share in the two runs. -/
structure SameNotes (c : Census) (n n' : Notes ν ε) : Prop where
  named : ∀ name, c.Agree (n.named name) (n'.named name)
  held : ∀ name,
    c.Agree ((n.held name).map Subscription.id) ((n'.held name).map Subscription.id)
  heard : ∀ number, ¬ c.Strange number → heardBy number n'.heard = heardBy number n.heard

/-- The second run has come as far as the first, which has everybody present. -/
structure Without (absent : Member β → Bool) (c : Census)
    (w v : World (Notes ν ε) ε (Member β)) : Prop where
  made : w.memory.made = c.made
  made' : v.memory.made = c.made
  nextId : w.bus.nextId = c.made
  nextId' : v.bus.nextId = c.present.length
  bus : SameBus absent c w.bus v.bus
  notes : SameNotes c w.memory v.memory

variable {absent : Member β → Bool} {c c' : Census}

namespace SameBus

variable {b b' : Bus ε (Member β)} {id id' : ListenerId} {m : Member β}

lemma extend (h : SameBus absent c b b') (hc : c.Extends c') : SameBus absent c' b b' :=
  { h with
    listeners := h.listeners.mono (fun _ hl => hl.extend hc) fun _ _ hl => hl.extend hc
    additions := h.additions.mono (fun _ hl => hl.extend hc) fun _ _ hl => hl.extend hc
    removals := h.removals.mono (fun _ hid => hid.extend hc) fun _ _ hid => hid.extend hc }

lemma add (h : SameBus absent c b b') (hm : c.Met absent ⟨⟨b.nextId⟩, m⟩ ⟨⟨b'.nextId⟩, m⟩) :
    SameBus absent c (b.add m).2 (b'.add m).2 := by
  have hadded : Thinned (c.Missed absent) (c.Met absent) [⟨⟨b.nextId⟩, m⟩] [⟨⟨b'.nextId⟩, m⟩] :=
    .keep hm .nil
  unfold Bus.add
  by_cases hemitting : b.emitting = true
  · rw [if_pos hemitting, if_pos (h.emitting.trans hemitting)]
    exact { h with additions := h.additions.append hadded }
  · rw [if_neg hemitting, if_neg (h.emitting ▸ hemitting)]
    exact { h with listeners := h.listeners.append hadded }

lemma add_missed (h : SameBus absent c b b') (hm : c.Missed absent ⟨⟨b.nextId⟩, m⟩) :
    SameBus absent c (b.add m).2 b' := by
  have hadded : Thinned (c.Missed absent) (c.Met absent) [⟨⟨b.nextId⟩, m⟩] [] := .skip hm .nil
  unfold Bus.add
  split
  · exact { h with additions := by simpa using h.additions.append hadded }
  · exact { h with listeners := by simpa using h.listeners.append hadded }

lemma remove (h : SameBus absent c b b') (hid : c.Same id id') :
    SameBus absent c (b.remove id) (b'.remove id') := by
  have hkept : ∀ l l', c.Met absent l l' → decide (l.id ≠ id) = decide (l'.id ≠ id') :=
    fun l l' hl => decide_eq_decide.mpr (not_congr (hid.eq_iff hl.same))
  unfold Bus.remove
  by_cases hemitting : b.emitting = true
  · rw [if_pos hemitting, if_pos (h.emitting.trans hemitting)]
    exact { h with
      additions := h.additions.filter hkept
      removals := h.removals.append (.keep hid .nil) }
  · rw [if_neg hemitting, if_neg (h.emitting ▸ hemitting)]
    exact { h with listeners := h.listeners.filter hkept }

/-- Whoever is missed is another one than those that are met. -/
lemma remove_missed (h : SameBus absent c b b') (hid : c.Strange id.number) :
    SameBus absent c (b.remove id) b' := by
  have hkept : ∀ l l', c.Met absent l l' → decide (l.id ≠ id) = true := by
    intro l l' hl
    have hne : l.id ≠ id := by
      rintro rfl
      exact hl.same.not_strange hid
    simpa using hne
  unfold Bus.remove
  split
  · exact { h with
      additions := by simpa using h.additions.filter hkept
      removals := by simpa using h.removals.append (.skip hid .nil) }
  · exact { h with listeners := by simpa using h.listeners.filter hkept }

lemma enqueue (h : SameBus absent c b b') (e : ε) :
    SameBus absent c (b.enqueue e) (b'.enqueue e) :=
  { h with queue := congrArg (· ++ [e]) h.queue }

/-- Whether its removal has been noted down is the same for whoever is met. -/
lemma contains_removals (h : SameBus absent c b b') (hid : c.Same id id') :
    b.removals.contains id = b'.removals.contains id' := by
  have hmem : id ∈ b.removals ↔ id' ∈ b'.removals :=
    h.removals.mem_iff hid.not_strange fun _ _ hother => hid.eq_iff hother
  rw [Bool.eq_iff_iff, List.contains_iff_mem, List.contains_iff_mem, hmem]

lemma settle (h : SameBus absent c b b') : SameBus absent c b.settle b'.settle :=
  { h with
    listeners :=
      (h.listeners.filter fun _ _ hl => congrArg not (h.contains_removals hl.same)).append
        h.additions
    additions := .nil
    removals := .nil }

end SameBus

lemma heardBy_concat (k number : ℕ) (e : ε) (heard : List (ℕ × ε)) :
    heardBy k (heard ++ [(number, e)]) = heardBy k heard ++ if number = k then [e] else [] := by
  unfold heardBy
  rw [List.filterMap_append]
  split_ifs with h <;> simp [h]

namespace SameNotes

variable {n n' : Notes ν ε}

lemma extend (h : SameNotes c n n') (hc : c.Extends c') : SameNotes c' n n' where
  named name := (h.named name).extend hc
  held name := (h.held name).extend hc
  heard number hnumber := h.heard number fun hstrange => hnumber (hstrange.extend hc)

lemma hear (h : SameNotes c n n') (number : ℕ) (e : ε) :
    SameNotes c { n with heard := n.heard ++ [(number, e)] }
      { n' with heard := n'.heard ++ [(number, e)] } :=
  { h with heard := fun k hk => by simp only [heardBy_concat, h.heard k hk] }

lemma hear_missed (h : SameNotes c n n') {number : ℕ} (hnumber : c.Strange number) (e : ε) :
    SameNotes c { n with heard := n.heard ++ [(number, e)] } n' :=
  { h with
    heard := fun k hk => by
      have hne : number ≠ k := by
        rintro rfl
        exact hk hnumber
      rw [heardBy_concat, if_neg hne, List.append_nil, h.heard k hk] }

variable [DecidableEq ν]

lemma rename (h : SameNotes c n n') (name : ν) {id id' : Option ListenerId}
    (hid : c.Agree id id') :
    SameNotes c { n with named := Function.update n.named name id }
      { n' with named := Function.update n'.named name id' } :=
  { h with
    named := fun other => by
      simp only [Function.update_apply]
      split_ifs
      · exact hid
      · exact h.named other }

lemma hold (h : SameNotes c n n') (name : ν) {s s' : Option Subscription}
    (hs : c.Agree (s.map Subscription.id) (s'.map Subscription.id)) :
    SameNotes c { n with held := Function.update n.held name s }
      { n' with held := Function.update n'.held name s' } :=
  { h with
    held := fun other => by
      simp only [Function.update_apply]
      split_ifs
      · exact hs
      · exact h.held other }

end SameNotes

/-- A request by which a member joins the bus, and what it is known by afterwards. -/
def Joins {κ : Type} (join : Member β → Play ν ε β κ) (known : κ → ListenerId) : Prop :=
  ∀ m w, known ((join m).run w).1 = ⟨w.bus.nextId⟩ ∧
    ∃ x, ((join m).run w).2 = { w with bus := (w.bus.add m).2 }.note x

lemma joins_add : Joins (Program.add : Member β → Play ν ε β ListenerId) id := by
  refine fun m w => ⟨?_, .added ⟨w.bus.nextId⟩, ?_⟩ <;>
    · simp only [Program.add, Program.ask, Program.run, World.answer, Bus.add]
      split <;> rfl

lemma joins_subscribe :
    Joins (Program.subscribe : Member β → Play ν ε β Subscription) Subscription.id := by
  refine fun m w => ⟨?_, .subscribed ⟨w.bus.nextId⟩, ?_⟩ <;>
    · simp only [Program.subscribe, Program.ask, Program.run, World.answer, Bus.add]
      split <;> rfl

/-- One member more has been counted. -/
def World.counted (w : World (Notes ν ε) ε (Member β)) : World (Notes ν ε) ε (Member β) :=
  { w with memory := { w.memory with made := w.memory.made + 1 } }

section Engage

variable (absent) {κ : Type} (join : Member β → Play ν ε β κ) {role : β}
  {w : World (Notes ν ε) ε (Member β)}

lemma run_engage :
    (engage absent join role).run w =
      (if absent ⟨w.memory.made, role⟩ then return none
        else return some (← join ⟨w.memory.made, role⟩) : Play ν ε β (Option κ)).run w.counted :=
  rfl

lemma run_engage_absent (h : absent ⟨w.memory.made, role⟩ = true) :
    (engage absent join role).run w = (none, w.counted) := by
  rw [run_engage, if_pos h]
  rfl

lemma run_engage_present (h : absent ⟨w.memory.made, role⟩ = false) :
    (engage absent join role).run w =
      (some ((join ⟨w.memory.made, role⟩).run w.counted).1,
        ((join ⟨w.memory.made, role⟩).run w.counted).2) := by
  rw [run_engage, if_neg (by simp [h])]
  exact Program.run_bind _ _ _

end Engage

namespace Without

variable {w v : World (Notes ν ε) ε (Member β)} {id id' : ListenerId}

lemma start (absent : Member β → Bool) :
    Without absent .start ({ memory := {} } : World (Notes ν ε) ε (Member β)) { memory := {} } where
  made := rfl
  made' := rfl
  nextId := rfl
  nextId' := rfl
  bus := ⟨rfl, rfl, .nil, .nil, .nil⟩
  notes := ⟨fun _ => .vacant, fun _ => .vacant, fun _ _ => rfl⟩

lemma note (h : Without absent c w v) (x y : Happening ε) :
    Without absent c (w.note x) (v.note y) := { h with }

lemma note_missed (h : Without absent c w v) (x : Happening ε) :
    Without absent c (w.note x) v := { h with }

/-- A member joins that is present. -/
lemma enroll (h : Without absent c w v) {role : β} (hrole : absent ⟨c.made, role⟩ = false) :
    Without absent c.enroll { w.counted with bus := (w.bus.add ⟨c.made, role⟩).2 }
      { v.counted with bus := (v.bus.add ⟨c.made, role⟩).2 } where
  made := congrArg (· + 1) h.made
  made' := congrArg (· + 1) h.made'
  nextId := by simp [h.nextId, Census.enroll]
  nextId' := by simp [h.nextId', Census.enroll]
  bus := by
    refine (h.bus.extend c.extends_enroll).add ⟨hrole, ?_, rfl, h.nextId.symm⟩
    simpa [h.nextId, h.nextId'] using c.same_enroll
  notes := { h.notes.extend c.extends_enroll with }

/-- A member joins that is absent from the other run. -/
lemma pass (h : Without absent c w v) {role : β} (hrole : absent ⟨c.made, role⟩ = true) :
    Without absent c.pass { w.counted with bus := (w.bus.add ⟨c.made, role⟩).2 } v.counted where
  made := congrArg (· + 1) h.made
  made' := congrArg (· + 1) h.made'
  nextId := by simp [h.nextId, Census.pass]
  nextId' := h.nextId'
  bus := by
    refine (h.bus.extend c.extends_pass).add_missed ⟨hrole, ?_, h.nextId.symm⟩
    simpa [h.nextId] using c.strange_pass
  notes := { h.notes.extend c.extends_pass with }

/-- Whoever joins gets to be known in both runs, or in the full run only. -/
lemma engaged (h : Without absent c w v) {κ : Type} {join : Member β → Play ν ε β κ}
    {known : κ → ListenerId} (hjoin : Joins join known) (role : β) :
    ∃ c', c.Extends c' ∧
      Without absent c' ((engage nobody join role).run w).2 ((engage absent join role).run v).2 ∧
      c'.Agree (((engage nobody join role).run w).1.map known)
        (((engage absent join role).run v).1.map known) := by
  obtain ⟨hknown, x, hx⟩ := hjoin ⟨c.made, role⟩ w.counted
  rw [run_engage_present nobody join rfl, h.made, hx]
  cases hrole : absent ⟨c.made, role⟩ with
  | false =>
      obtain ⟨hknown', y, hy⟩ := hjoin ⟨c.made, role⟩ v.counted
      rw [run_engage_present absent join (h.made' ▸ hrole), h.made', hy]
      refine ⟨c.enroll, c.extends_enroll, (h.enroll hrole).note x y, ?_⟩
      rw [Option.map_some, Option.map_some, hknown, hknown']
      refine .same ?_
      have hsame := c.same_enroll
      rwa [← h.nextId, ← h.nextId'] at hsame
  | true =>
      rw [run_engage_absent absent join (h.made' ▸ hrole)]
      refine ⟨c.pass, c.extends_pass, (h.pass hrole).note_missed x, ?_⟩
      rw [Option.map_some, Option.map_none, hknown]
      refine .strange ?_
      have hstrange := c.strange_pass
      rwa [← h.nextId] at hstrange

lemma leave (h : Without absent c w v) (hid : c.Same id id') :
    Without absent c { w with bus := w.bus.remove id } { v with bus := v.bus.remove id' } :=
  { h with
    nextId := (nextId_remove _ _).trans h.nextId
    nextId' := (nextId_remove _ _).trans h.nextId'
    bus := h.bus.remove hid }

lemma leave_missed (h : Without absent c w v) (hid : c.Strange id.number) :
    Without absent c { w with bus := w.bus.remove id } v :=
  { h with
    nextId := (nextId_remove _ _).trans h.nextId
    bus := h.bus.remove_missed hid }

lemma removedAny (h : Without absent c w v) {named named' : Option ListenerId}
    (hid : c.Agree named named') :
    Without absent c ((removeAny named).run w).2 ((removeAny named').run v).2 := by
  cases hid with
  | vacant => exact h
  | same hid => exact (h.leave hid).note _ _
  | strange hid => exact (h.leave_missed hid).note_missed _

lemma releasedAny (h : Without absent c w v) {s s' : Option Subscription}
    (hs : c.Agree (s.map Subscription.id) (s'.map Subscription.id)) :
    Without absent c ((releaseAny s).run w).2 ((releaseAny s').run v).2 := by
  cases s with
  | none =>
      cases s' with
      | none => exact h
      | some s' => cases hs
  | some s =>
      cases s' with
      | none =>
          cases hs with
          | strange hid => exact (h.leave_missed hid).note_missed (.released s.id)
      | some s' =>
          cases hs with
          | same hid => exact (h.leave hid).note (.released s.id) (.released s'.id)

/-- The listeners put something else down, but not how many there have been. -/
lemma remember (h : Without absent c w v) {n n' : Notes ν ε} (hn : SameNotes c n n')
    (hmade : n.made = w.memory.made) (hmade' : n'.made = v.memory.made) :
    Without absent c { w with memory := n } { v with memory := n' } :=
  { h with made := hmade.trans h.made, made' := hmade'.trans h.made', notes := hn }

end Without

namespace Without

variable [DecidableEq ν] {w v : World (Notes ν ε) ε (Member β)}

lemma enacted_add (h : Without absent c w v) (name : ν) (role : β) :
    ∃ c', c.Extends c' ∧ Without absent c' ((enact nobody (.add name role)).run w).2
      ((enact absent (.add name role)).run v).2 := by
  obtain ⟨c', hc, hengaged, hid⟩ := h.engaged joins_add role
  rw [Option.map_id, id, id] at hid
  refine ⟨c', hc, ?_⟩
  simp only [enact, Program.run_bind]
  exact hengaged.remember (hengaged.notes.rename name hid) rfl rfl

lemma enacted_subscribe (h : Without absent c w v) (name : ν) (role : β) :
    ∃ c', c.Extends c' ∧ Without absent c' ((enact nobody (.subscribe name role)).run w).2
      ((enact absent (.subscribe name role)).run v).2 := by
  obtain ⟨c', hc, hengaged, hs⟩ := h.engaged joins_subscribe role
  have hheld := hengaged.remember ((hengaged.notes.rename name hs).hold name hs) rfl rfl
  refine ⟨c', hc, ?_⟩
  simp only [enact, Program.run_bind]
  exact hheld.releasedAny (hengaged.notes.held name)

lemma enacted_remove (h : Without absent c w v) (name : ν) :
    Without absent c ((enact nobody (.remove name)).run w).2
      ((enact absent (.remove name)).run v).2 := by
  simp only [enact, Program.run_bind]
  exact h.removedAny (h.notes.named name)

lemma enacted_release (h : Without absent c w v) (name : ν) :
    Without absent c ((enact nobody (.release name)).run w).2
      ((enact absent (.release name)).run v).2 := by
  have hvacant : c.Agree ((none : Option Subscription).map Subscription.id)
      ((none : Option Subscription).map Subscription.id) := .vacant
  have hheld := h.remember (h.notes.hold name hvacant) rfl rfl
  simp only [enact, Program.run_bind]
  exact hheld.releasedAny (h.notes.held name)

/-- During a delivery a deed has the same effect in both runs. -/
lemma enacted (h : Without absent c w v) (d : Deed ν ε β) :
    ∃ c', c.Extends c' ∧
      Without absent c' ((enact nobody d).run w).2 ((enact absent d).run v).2 := by
  cases d with
  | add name role => exact h.enacted_add name role
  | subscribe name role => exact h.enacted_subscribe name role
  | remove name => exact ⟨c, .refl c, h.enacted_remove name⟩
  | release name => exact ⟨c, .refl c, h.enacted_release name⟩
  | emit e => exact ⟨c, .refl c, { h with bus := h.bus.enqueue e }⟩

lemma enactedAll (h : Without absent c w v) (deeds : List (Deed ν ε β)) :
    ∃ c', c.Extends c' ∧ Without absent c' ((deeds.forM (enact nobody)).run w).2
      ((deeds.forM (enact absent)).run v).2 := by
  induction deeds generalizing c w v with
  | nil => exact ⟨c, .refl c, h⟩
  | cons d deeds ih =>
      obtain ⟨c', hc, hfirst⟩ := h.enacted d
      obtain ⟨c'', hc', hrest⟩ := ih hfirst
      refine ⟨c'', hc.trans hc', ?_⟩
      rwa [run_enactAll_cons, run_enactAll_cons]

end Without

/-- The calls of the two runs: those of listeners that are present correspond one by one. -/
def SameCalls (absent : Member β → Bool) (c : Census) :
    List (Call (Notes ν ε) ε (Member β)) → List (Call (Notes ν ε) ε (Member β)) → Prop :=
  Thinned (fun x => c.Missed absent x.listener) fun x y =>
    c.Met absent x.listener y.listener ∧ y.event = x.event

/-- With these calls the two runs have come to these worlds, and some may have joined on the way. -/
def Went (absent : Member β → Bool) (c : Census) (w v : World (Notes ν ε) ε (Member β))
    (calls calls' : List (Call (Notes ν ε) ε (Member β))) : Prop :=
  ∃ c', c.Extends c' ∧ Without absent c' w v ∧ SameCalls absent c' calls calls'

section Went

variable {w v w' v' : World (Notes ν ε) ε (Member β)}
  {calls calls' more more' : List (Call (Notes ν ε) ε (Member β))}

lemma SameCalls.extend (h : SameCalls absent c calls calls') (hc : c.Extends c') :
    SameCalls absent c' calls calls' :=
  h.mono (fun _ hx => hx.extend hc) fun _ _ hxy => ⟨hxy.1.extend hc, hxy.2⟩

lemma Without.went (h : Without absent c w v) : Went absent c w v [] [] :=
  ⟨c, .refl c, h, .nil⟩

/-- The calls of the way there come before those that follow. -/
lemma Went.after (h : Went absent c' w v more more') (hc : c.Extends c')
    (hcalls : SameCalls absent c' calls calls') :
    Went absent c w v (calls ++ more) (calls' ++ more') := by
  obtain ⟨c'', hc', hw, hmore⟩ := h
  exact ⟨c'', hc.trans hc', hw, (hcalls.extend hc').append hmore⟩

lemma Went.imp (h : Went absent c w v calls calls')
    (himp : ∀ c', Without absent c' w v → Without absent c' w' v') :
    Went absent c w' v' calls calls' := by
  obtain ⟨c', hc, hw, hcalls⟩ := h
  exact ⟨c', hc, himp c' hw, hcalls⟩

end Went

/-- Both have ended or both were broken off, and this holds of what they have come to. -/
inductive Alike {α : Type} (R : α → α → Prop) : Except α α → Except α α → Prop
  | ended {a a' : α} (h : R a a') : Alike R (.ok a) (.ok a')
  | brokenOff {a a' : α} (h : R a a') : Alike R (.error a) (.error a')

lemma Alike.imp {α : Type} {R R' : α → α → Prop} {x x' : Except α α} (h : Alike R x x')
    (himp : ∀ a a', R a a' → R' a a') : Alike R' x x' := by
  cases h with
  | ended h => exact .ended (himp _ _ h)
  | brokenOff h => exact .brokenOff (himp _ _ h)

section Runs

variable [DecidableEq ν] {conduct : β → List ε → List (Deed ν ε β)}
  {w v : World (Notes ν ε) ε (Member β)}

/-- Whoever has heard the same does the same. -/
lemma Without.responded (h : Without absent c w v) {m : Member β} (hm : ¬ c.Strange m.number)
    (e : ε) :
    ∃ c', c.Extends c' ∧ Without absent c' ((goBy nobody conduct m e).run w).2
      ((goBy absent conduct m e).run v).2 := by
  have hnotes := h.notes.hear m.number e
  rw [run_goBy, run_goBy, World.hear, World.hear, hnotes.heard m.number hm]
  exact (h.remember hnotes rfl rfl).enactedAll _

/-- Whoever does nothing has only heard something. -/
lemma Without.responded_missed (h : Without absent c w v) {m : Member β}
    (hm : c.Strange m.number) (hpassive : ∀ heard, conduct m.role heard = []) (e : ε) :
    Without absent c ((goBy nobody conduct m e).run w).2 v := by
  rw [run_goBy, hpassive]
  exact { h with notes := h.notes.hear_missed hm e }

variable (conduct) in
lemma Without.turn (h : Without absent c w v) (e : ε) {l l' : Listener (Member β)}
    (hl : c.Met absent l l') :
    Went absent c (w.turn (goBy nobody conduct) e l) (v.turn (goBy absent conduct) e l')
      (w.turnCalls e l) (v.turnCalls e l') := by
  unfold World.turn World.turnCalls
  rw [h.bus.contains_removals hl.same, hl.body]
  split_ifs
  · exact h.went
  · have hm : ¬ c.Strange l.body.number := hl.number ▸ hl.same.not_strange
    obtain ⟨c', hc, hresponded⟩ := (h.note (.called l.id e) (.called l'.id e)).responded hm e
    exact ⟨c', hc, hresponded.note _ _, .keep ⟨hl.extend hc, rfl⟩ .nil⟩

section Passive

variable (hpassive : ∀ m, absent m = true → ∀ heard, conduct m.role heard = [])
include hpassive

lemma Without.turn_missed (h : Without absent c w v) (e : ε) {l : Listener (Member β)}
    (hl : c.Missed absent l) :
    Went absent c (w.turn (goBy nobody conduct) e l) v (w.turnCalls e l) [] := by
  unfold World.turn World.turnCalls
  split_ifs
  · exact h.went
  · have hm : c.Strange l.body.number := hl.number ▸ hl.strange
    have hresponded := (h.note_missed (.called l.id e)).responded_missed hm
      (hpassive l.body hl.absent) e
    exact ⟨c, .refl c, hresponded.note_missed _, .skip hl .nil⟩

/-- The induction is on what the lists of those that wait have in common. Which of them are met or
missed is known before the first turn, and the census may have grown by the next. -/
lemma Without.turns (h : Without absent c w v) (e : ε)
    {waiting waiting' : List (Listener (Member β))}
    (hwaiting : Thinned (c.Missed absent) (c.Met absent) waiting waiting') :
    Went absent c (waiting.foldl (World.turn (goBy nobody conduct) e) w)
      (waiting'.foldl (World.turn (goBy absent conduct) e) v)
      (w.turnsCalls (goBy nobody conduct) e waiting)
      (v.turnsCalls (goBy absent conduct) e waiting') := by
  generalize hout : c.Missed absent = out at hwaiting
  generalize hsame : c.Met absent = same at hwaiting
  have hmissed : ∀ l, out l → c.Missed absent l := fun l hl => hout ▸ hl
  have hmet : ∀ l l', same l l' → c.Met absent l l' := fun l l' hl => hsame ▸ hl
  clear hout hsame
  induction hwaiting generalizing c w v with
  | nil => exact h.went
  | skip head _ ih =>
      obtain ⟨c', hc, hturn, hcalls⟩ := h.turn_missed hpassive e (hmissed _ head)
      have hrest := ih hturn (fun l hl => (hmissed l hl).extend hc)
        fun l l' hl => (hmet l l' hl).extend hc
      exact hrest.after hc hcalls
  | keep head _ ih =>
      obtain ⟨c', hc, hturn, hcalls⟩ := h.turn conduct e (hmet _ _ head)
      have hrest := ih hturn (fun l hl => (hmissed l hl).extend hc)
        fun l l' hl => (hmet l l' hl).extend hc
      exact hrest.after hc hcalls

lemma Without.round (h : Without absent c w v) (e : ε) :
    Went absent c (w.round (goBy nobody conduct) e) (v.round (goBy absent conduct) e)
      (w.roundCalls (goBy nobody conduct) e) (v.roundCalls (goBy absent conduct) e) :=
  ((h.note (.roundBegan e) (.roundBegan e)).turns hpassive e h.bus.listeners).imp
    fun _ hturns => { hturns with bus := hturns.bus.settle }

lemma Without.drain (h : Without absent c w v) (limit : ℕ) :
    Alike (Went absent c · · (w.drainCalls (goBy nobody conduct) limit)
        (v.drainCalls (goBy absent conduct) limit))
      (w.drain (goBy nobody conduct) limit) (v.drain (goBy absent conduct) limit) := by
  fun_induction World.drain (goBy nobody conduct) limit w generalizing c v with
  | case1 w limit hqueue =>
      have hqueue' := h.bus.queue.trans hqueue
      simp only [World.drain_of_nil _ hqueue, World.drain_of_nil _ hqueue']
      exact .ended h.went
  | case2 w e queue hqueue =>
      have hqueue' := h.bus.queue.trans hqueue
      simp only [World.drain_zero_of_cons _ hqueue, World.drain_zero_of_cons _ hqueue']
      exact .brokenOff h.went
  | case3 w e queue limit hqueue ih =>
      have hqueue' := h.bus.queue.trans hqueue
      have htaken : Without absent c { w with bus := { w.bus with queue } }
          { v with bus := { v.bus with queue } } :=
        { h with bus := { h.bus with queue := rfl } }
      obtain ⟨c', hc, hround, hcalls⟩ := htaken.round hpassive e
      simp only [World.drain_succ_of_cons _ hqueue, World.drain_succ_of_cons _ hqueue']
      exact (ih hround).imp fun _ _ hrest => hrest.after hc hcalls

lemma Without.emit (h : Without absent c w v) (limit : ℕ) (e : ε) :
    Alike (Went absent c · · (w.emitCalls (goBy nobody conduct) limit e)
        (v.emitCalls (goBy absent conduct) limit e))
      (w.emit (goBy nobody conduct) limit e) (v.emit (goBy absent conduct) limit e) := by
  have hdue : Without absent c (w.due e) (v.due e) :=
    { h with bus := { h.bus with emitting := rfl } }
  obtain ⟨c', hc, hround, hcalls⟩ := hdue.round hpassive e
  have hdrain := (hround.drain hpassive limit).imp fun _ _ hrest => hrest.after hc hcalls
  rw [World.emit_eq, World.emit_eq]
  unfold World.emitCalls
  generalize ((w.due e).round _ e).drain _ limit = x at hdrain ⊢
  generalize ((v.due e).round _ e).drain _ limit = y at hdrain ⊢
  cases hdrain with
  | ended hwent =>
      exact .ended (hwent.imp fun _ h => { h with bus := { h.bus with emitting := rfl } })
  | brokenOff hwent => exact .brokenOff hwent

end Passive

end Runs

end Keychord.Bus
