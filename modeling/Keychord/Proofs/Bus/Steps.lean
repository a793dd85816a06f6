import Keychord.Proofs.Bus.History
import Mathlib.Logic.Relation

/-!
# A run of a bus, step by step

A run is cut into steps that each enter at most one happening into the journal. The stage says
how far the run is: outside of any delivery, about to deliver an event, in a round with some
listeners still waiting for their turn, inside a listener, at the end of a round, when those who
were taken off leave, or between two rounds.

Inside a listener every request is a step, whatever the listener's program. If listeners own
subscriptions, any of them may be released when those who were taken off leave. What all steps
preserve therefore holds of every run, with any listeners and any program that uses the bus,
and also of a run that never ends.
-/
namespace Keychord.Bus

variable {σ ε β α : Type} {owning : Prop}

open Happening

/-- How far a run has come. -/
inductive Stage (ε β : Type) where
  | outside
  | starting (e : ε)
  | turns (e : ε) (waiting : List (Listener β))
  | inside (e : ε) (l : Listener β) (waiting : List (Listener β))
  | leaving (e : ε)
  | between

/-- The request is to emit an event, which is delivered at once if it comes from outside. -/
def Request.isEmit : Request σ ε β → Bool
  | emit _ => true
  | _ => false

lemma Request.isEmit_eq_false {r : Request σ ε β} {next : r.Answer → Program σ ε β α}
    (h : ∀ (e : ε) (next' : Unit → Program σ ε β α), r = .emit e → next ≍ next' → False) :
    r.isEmit = false := by
  cases r with
  | emit e => exact (h e next rfl HEq.rfl).elim
  | _ => rfl

/-- What a request leaves behind, its answer aside. -/
inductive Answered (w : World σ ε β) : Request σ ε β → World σ ε β → Prop
  | quiet {r : Request σ ε β} (memory : σ) : Answered w r { w with memory }
  | joined {r : Request σ ε β} (body : β) (h : Happening ε)
      (hj : h.joined? = some ⟨w.bus.nextId⟩) :
      Answered w r ({ w with bus := (w.bus.add body).2 }.note h)
  | left {r : Request σ ε β} (id : ListenerId) (h : Happening ε) (hl : h.left? = some id) :
      Answered w r ({ w with bus := w.bus.remove id }.note h)
  | emitted (e : ε) :
      Answered w (.emit e) ({ w with bus := w.bus.enqueue e }.note (.emitted e))

lemma World.answered (w : World σ ε β) (r : Request σ ε β) : Answered w r (w.answer r).2 := by
  have hnumber : ∀ body : β, (w.bus.add body).1 = ⟨w.bus.nextId⟩ := by
    intro body
    unfold Bus.add
    split <;> rfl
  cases r with
  | load => exact .quiet w.memory
  | store memory => exact .quiet memory
  | add body => exact .joined body _ (congrArg some (hnumber body))
  | subscribe body => exact .joined body _ (congrArg some (hnumber body))
  | remove id => exact .left id _ rfl
  | release s => exact .left s.id _ rfl
  | emit e => exact .emitted e
  | look => exact .quiet w.memory

/-- An event was emitted from outside and is due at once. -/
def World.due (e : ε) (w : World σ ε β) : World σ ε β :=
  { w with bus := { w.bus with emitting := true } }.note (.emitted e)

/-- The emission that was going on is over. -/
def World.rest (w : World σ ε β) : World σ ε β :=
  { w with bus := { w.bus with emitting := false } }

/-- A step, where listeners own subscriptions or not. -/
inductive Step (owning : Prop) : Stage ε β × World σ ε β → Stage ε β × World σ ε β → Prop
  | answer {w : World σ ε β} (r : Request σ ε β) (h : r.isEmit = false) :
      Step owning (.outside, w) (.outside, (w.answer r).2)
  | emit {w : World σ ε β} (e : ε) : Step owning (.outside, w) (.starting e, w.due e)
  | start {w : World σ ε β} (e : ε) :
      Step owning (.starting e, w) (.turns e w.bus.listeners, w.note (.roundBegan e))
  | skip {w : World σ ε β} {e : ε} {l : Listener β} {waiting : List (Listener β)}
      (h : l.id ∈ w.bus.removals) : Step owning (.turns e (l :: waiting), w) (.turns e waiting, w)
  | call {w : World σ ε β} {e : ε} {l : Listener β} {waiting : List (Listener β)}
      (h : l.id ∉ w.bus.removals) :
      Step owning (.turns e (l :: waiting), w) (.inside e l waiting, w.note (.called l.id e))
  | request {w : World σ ε β} {e : ε} {l : Listener β} {waiting : List (Listener β)}
      (r : Request σ ε β) :
      Step owning (.inside e l waiting, w) (.inside e l waiting, (w.answer r).2)
  | return {w : World σ ε β} {e : ε} {l : Listener β} {waiting : List (Listener β)} :
      Step owning (.inside e l waiting, w) (.turns e waiting, w.note (.returned l.id))
  | retire {w : World σ ε β} {e : ε} :
      Step owning (.turns e [], w) (.leaving e, { w with bus := w.bus.retire })
  | letGo {w : World σ ε β} {e : ε} (h : owning) {id : ListenerId}
      (hid : id.number < w.bus.nextId) :
      Step owning (.leaving e, w)
        (.leaving e, { w with bus := w.bus.remove id }.note (.released id))
  | join {w : World σ ε β} {e : ε} :
      Step owning (.leaving e, w) (.between, { w with bus := w.bus.join }.note (.roundEnded e))
  | next {w : World σ ε β} {e : ε} {queue : List ε} (h : w.bus.queue = e :: queue) :
      Step owning (.between, w) (.starting e, { w with bus := { w.bus with queue } })
  | finish {w : World σ ε β} (h : w.bus.queue = []) :
      Step owning (.between, w) (.outside, w.rest)

lemma Answered.journal {w w' : World σ ε β} {r : Request σ ε β} (h : Answered w r w') :
    w'.happenings = w.happenings ∨
      ∃ x, w'.happenings = w.happenings ++ [x] ∧ x.isRequest = true := by
  cases h with
  | quiet memory => exact .inl rfl
  | joined body x hj => exact .inr ⟨x, World.happenings_note _ _, (request_of_joined hj).1⟩
  | left id x hl => exact .inr ⟨x, World.happenings_note _ _, (request_of_left hl).1⟩
  | emitted e => exact .inr ⟨_, World.happenings_note _ _, rfl⟩

lemma Answered.emitting {w w' : World σ ε β} {r : Request σ ε β} (h : Answered w r w') :
    w'.bus.emitting = w.bus.emitting := by
  cases h with
  | quiet memory => rfl
  | joined body x hj => exact emitting_add _ _
  | left id x hl => exact emitting_remove _ _
  | emitted e => rfl

/-- A call belongs to the turn of the listener that is called, and the end of a round comes when
those who were taken off have left. Everything else may be entered into the journal at any stage. -/
structure Entry (s : Stage ε β × World σ ε β) (x : Happening ε) : Prop where
  call : ∀ id e, x = .called id e →
    ∃ l waiting, s.1 = .turns e (l :: waiting) ∧ l.id = id ∧ id ∉ s.2.bus.removals
  ending : ∀ e, x = .roundEnded e → s.1 = .leaving e

lemma Entry.of_isRequest {s : Stage ε β × World σ ε β} {x : Happening ε}
    (hx : x.isRequest = true) : Entry s x where
  call := by
    rintro id e rfl
    cases hx
  ending := by
    rintro e rfl
    cases hx

lemma Answered.entry {w w' : World σ ε β} {r : Request σ ε β} (h : Answered w r w')
    (stage : Stage ε β) :
    w'.happenings = w.happenings ∨
      ∃ x, w'.happenings = w.happenings ++ [x] ∧ Entry (stage, w) x := by
  rcases h.journal with heq | ⟨x, heq, hx⟩
  · exact .inl heq
  · exact .inr ⟨x, heq, .of_isRequest hx⟩

/-- A step adds at most one entry to the journal. -/
lemma Step.journal {s t : Stage ε β × World σ ε β} (h : Step owning s t) :
    t.2.happenings = s.2.happenings ∨
      ∃ x, t.2.happenings = s.2.happenings ++ [x] ∧ Entry s x := by
  cases h with
  | answer r hr => exact (World.answered _ r).entry _
  | request r => exact (World.answered _ r).entry _
  | emit e => exact .inr ⟨_, World.happenings_note _ _, .of_isRequest rfl⟩
  | start e => exact .inr ⟨_, World.happenings_note _ _, nofun, nofun⟩
  | skip hl => exact .inl rfl
  | @call w e l waiting hl =>
      refine .inr ⟨_, World.happenings_note _ _, ?_, nofun⟩
      rintro _ _ ⟨⟩
      exact ⟨l, waiting, rfl, rfl, hl⟩
  | «return» => exact .inr ⟨_, World.happenings_note _ _, nofun, nofun⟩
  | retire => exact .inl rfl
  | letGo h hid => exact .inr ⟨_, World.happenings_note _ _, .of_isRequest rfl⟩
  | join =>
      refine .inr ⟨_, World.happenings_note _ _, nofun, ?_⟩
      rintro _ ⟨⟩
      rfl
  | next hq => exact .inl rfl
  | finish hq => exact .inl rfl

/-- Any number of steps. -/
abbrev Steps (owning : Prop) : Stage ε β × World σ ε β → Stage ε β × World σ ε β → Prop :=
  Relation.ReflTransGen (Step owning)

/-- What every step preserves holds after any number of steps. -/
lemma Steps.preserve {P : Stage ε β × World σ ε β → Prop} {s t : Stage ε β × World σ ε β}
    (hsteps : Steps owning s t) (hstep : ∀ {s t}, Step owning s t → P s → P t) (h : P s) :
    P t := by
  induction hsteps with
  | refl => exact h
  | tail _ hlast ih => exact hstep hlast ih

lemma Steps.journal_grows {s t : Stage ε β × World σ ε β} (h : Steps owning s t) :
    s.2.happenings <+: t.2.happenings := by
  induction h with
  | refl => exact List.prefix_rfl
  | tail _ hstep ih =>
      rcases hstep.journal with heq | ⟨x, heq, -⟩
      · exact heq ▸ ih
      · exact heq ▸ ih.trans ( List.prefix_append _ _)

lemma Program.run_steps (q : Program σ ε β α) (w : World σ ε β) (e : ε) (l : Listener β)
    (waiting : List (Listener β)) :
    Steps False (.inside e l waiting, w) (.inside e l waiting, (q.run w).2) := by
  induction q generalizing w with
  | done a => exact .refl
  | request r next ih => exact .head (.request r) (ih _ _)

namespace World

variable (respond : β → ε → Program σ ε β Unit)

lemma turn_steps (e : ε) (l : Listener β) (waiting : List (Listener β)) (w : World σ ε β) :
    Steps False (.turns e (l :: waiting), w) (.turns e waiting, w.turn respond e l) := by
  unfold turn
  by_cases h : l.id ∈ w.bus.removals
  · rw [if_pos (by simpa using h)]
    exact .single (.skip h)
  · rw [if_neg (by simpa using h)]
    exact .head (.call h) (.tail (Program.run_steps _ _ e l waiting) .return)

lemma turns_steps (e : ε) (waiting : List (Listener β)) (w : World σ ε β) :
    Steps False (.turns e waiting, w) (.turns e [], waiting.foldl (turn respond e) w) := by
  induction waiting generalizing w with
  | nil => exact .refl
  | cons l waiting ih => exact (turn_steps respond e l waiting w).trans (ih _)

lemma round_steps (e : ε) (w : World σ ε β) :
    Steps False (.starting e, w) (.between, w.round respond e) :=
  .head (.start e) (.tail (.tail (turns_steps respond e _ _) .retire) .join)

/-- A drain is a number of rounds, and ends with an empty queue unless it is broken off. -/
lemma drain_steps (limit : Nat) (w : World σ ε β) :
    match drain respond limit w with
    | .ok w' => Steps False (.between, w) (.between, w') ∧ w'.bus.queue = []
    | .error w' => Steps False (.between, w) (.between, w') := by
  fun_induction drain respond limit w with
  | case1 w limit h => exact ⟨.refl, h⟩
  | case2 w e queue h => exact .refl
  | case3 w e queue limit h ih =>
      have hround : Steps False (.between, w) (.between, _) := .head (.next h) (round_steps respond e _)
      split at ih
      · exact ⟨hround.trans ih.1, ih.2⟩
      · exact hround.trans ih

lemma emit_eq (limit : Nat) (e : ε) (w : World σ ε β) :
    w.emit respond limit e = (drain respond limit ((w.due e).round respond e)).map rest :=
  rfl

lemma emit_steps (limit : Nat) (e : ε) (w : World σ ε β) :
    match w.emit respond limit e with
    | .ok w' => Steps False (.starting e, w.due e) (.outside, w')
    | .error w' => Steps False (.starting e, w.due e) (.between, w') := by
  have hround : Steps False (.starting e, w.due e) (.between, (w.due e).round respond e) :=
    round_steps respond e _
  have hdrain := drain_steps respond limit ((w.due e).round respond e)
  rw [emit_eq]
  split at hdrain
  next w' heq =>
    simp only [heq, Except.map]
    exact (hround.trans hdrain.1).tail (.finish hdrain.2)
  next w' heq =>
    simp only [heq, Except.map]
    exact hround.trans hdrain

end World

theorem Program.perform_steps (respond : β → ε → Program σ ε β Unit) (limit : Nat)
    (q : Program σ ε β α) (w : World σ ε β) :
    match q.perform respond limit w with
    | .ok (_, w') => Steps False (.outside, w) (.outside, w')
    | .error w' => Steps False (.outside, w) (.between, w') := by
  fun_induction Program.perform respond limit q w with
  | case1 a w => exact .refl
  | case2 e next w w' h ih =>
      have hemit := World.emit_steps respond limit e w
      rw [h] at hemit
      split at ih <;> exact .head (.emit e) (hemit.trans ih)
  | case3 e next w w' h =>
      have hemit := World.emit_steps respond limit e w
      rw [h] at hemit
      exact .head (.emit e) hemit
  | case4 r next w hr ih =>
      split at ih <;> exact .head (.answer r (Request.isEmit_eq_false hr)) ih

/-- A run from outside ends between two rounds, if it is broken off. -/
theorem World.reached_steps (respond : β → ε → Program σ ε β Unit) (limit : Nat)
    (q : Program σ ε β α) (w : World σ ε β) :
    ∃ s, (s = .outside ∨ s = .between) ∧
      Steps False (.outside, w) (s, World.reached (q.perform respond limit w)) := by
  have h := q.perform_steps respond limit w
  cases hp : q.perform respond limit w with
  | ok result =>
      rw [hp] at h
      exact ⟨.outside, .inl rfl, h⟩
  | error w' =>
      rw [hp] at h
      exact ⟨.between, .inr rfl, h⟩

end Keychord.Bus
