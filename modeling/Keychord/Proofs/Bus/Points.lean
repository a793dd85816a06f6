import Keychord.Proofs.Bus.Calls

/-!
# The points of a run

A run can be looked at wherever something may be asked of the bus: from outside, before and after
each operation, and inside each listener that is called, before and after each of its requests. These
are the points of the run. Each of them is at a stage that the run comes to by its steps, so that
what the steps preserve is true at all points.
-/
namespace Keychord.Bus

variable {σ ε β α : Type}

/-- A program that runs during a delivery comes to this world, with some of its requests answered. -/
inductive Program.Passes : Program σ ε β α → World σ ε β → World σ ε β → Prop
  | here (q : Program σ ε β α) (w : World σ ε β) : Passes q w w
  | answer {r : Request σ ε β} {next : r.Answer → Program σ ε β α} {w v : World σ ε β}
      (h : Passes (next (w.answer r).1) (w.answer r).2 v) : Passes (.request r next) w v

section Points

variable (respond : β → ε → Program σ ε β Unit) (limit : ℕ)

/-- A program that is run from outside comes to this world, when some of its operations have
returned. -/
inductive Program.RestsAt : Program σ ε β α → World σ ε β → World σ ε β → Prop
  | here (q : Program σ ε β α) (w : World σ ε β) : RestsAt q w w
  | emit {e : ε} {next : Unit → Program σ ε β α} {w w' v : World σ ε β}
      (hw : w.emit respond limit e = .ok w') (h : RestsAt (next ()) w' v) :
      RestsAt (.request (.emit e) next) w v
  | answer {r : Request σ ε β} {next : r.Answer → Program σ ε β α} {w v : World σ ε β}
      (hr : r.isEmit = false) (h : RestsAt (next (w.answer r).1) (w.answer r).2 v) :
      RestsAt (.request r next) w v

/-- Inside the listener of one of its calls, the run comes to this world. -/
def Program.IsInside (p : Program σ ε β α) (w : World σ ε β) (c : Call σ ε β)
    (v : World σ ε β) : Prop :=
  c ∈ p.performCalls respond limit w ∧ (respond c.listener.body c.event).Passes c.world v

variable {respond limit} {p : Program σ ε β α} {w v : World σ ε β}

lemma Program.Passes.steps (h : p.Passes w v) (e : ε) (l : Listener β)
    (waiting : List (Listener β)) : Steps False (.inside e l waiting, w) (.inside e l waiting, v) := by
  induction h with
  | here q w => exact .refl
  | answer _ ih => exact .head (.request _) ih

lemma Program.RestsAt.steps (h : p.RestsAt respond limit w v) :
    Steps False (.outside, w) (.outside, v) := by
  induction h with
  | here q w => exact .refl
  | @emit e next w w' v hw _ ih =>
      have hemit := World.emit_steps respond limit e w
      rw [hw] at hemit
      exact .head (.emit e) (hemit.trans ih)
  | answer hr _ ih => exact .head (.answer _ hr) ih

lemma Program.IsInside.steps {c : Call σ ε β} (h : p.IsInside respond limit w c v) :
    ∃ waiting, Steps False (.outside, w) (.inside c.event c.listener waiting, v) := by
  obtain ⟨hcall, hpasses⟩ := h
  obtain ⟨u, waiting, hturn, hstays, hworld⟩ := performCalls_begin respond hcall
  refine ⟨waiting, (hturn.tail (.call hstays)).trans ?_⟩
  rw [← hworld]
  exact hpasses.steps c.event c.listener waiting

/-- The end of a run is one of its points. -/
lemma Program.RestsAt.of_perform {a : α} (h : p.perform respond limit w = .ok (a, v)) :
    p.RestsAt respond limit w v := by
  fun_induction Program.perform respond limit p w with
  | case1 b w =>
      cases h
      exact .here _ _
  | case2 e next w w' hw ih => exact .emit hw (ih h)
  | case3 e next w w' hw => cases h
  | case4 r next w hr ih => exact .answer (Request.isEmit_eq_false hr) (ih h)

end Points

end Keychord.Bus
