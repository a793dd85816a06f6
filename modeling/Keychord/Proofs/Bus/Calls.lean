import Keychord.Proofs.Bus.Delivery

/-!
# The calls of a run

A journal tells who was called and with which event. To say what a listener does in a call, one
also needs the world in which the call begins. The calls of a run are collected along with the run
itself, and they are all that the journal knows of.

A call begins at a stage that the run has come to by its steps, so that whatever is true of all
stages can be used of the world in which a call begins.
-/
namespace Keychord.Bus

variable {σ ε β α : Type}

open Happening

/-- The call of a listener, with the world in which it begins: the call has just been entered into
the journal, and the listener has done nothing yet. -/
structure Call (σ ε β : Type) where
  listener : Listener β
  event : ε
  world : World σ ε β

/-- The call as the journal tells it. -/
def Call.entry (c : Call σ ε β) : ListenerId × ε := (c.listener.id, c.event)

section Calls

variable (respond : β → ε → Program σ ε β Unit)

/-- The call of a listener whose turn it is, if it is called. -/
def World.turnCalls (e : ε) (w : World σ ε β) (l : Listener β) : List (Call σ ε β) :=
  if w.bus.removals.contains l.id then [] else [⟨l, e, w.note (.called l.id e)⟩]

/-- The calls of listeners that wait for their turn. -/
def World.turnsCalls (e : ε) : World σ ε β → List (Listener β) → List (Call σ ε β)
  | _, [] => []
  | w, l :: waiting => w.turnCalls e l ++ turnsCalls e (w.turn respond e l) waiting

/-- The calls of a round. -/
def World.roundCalls (e : ε) (w : World σ ε β) : List (Call σ ε β) :=
  (w.note (.roundBegan e)).turnsCalls respond e w.bus.listeners

/-- The calls with the events that wait, at most `limit` of them. -/
def World.drainCalls (limit : ℕ) (w : World σ ε β) : List (Call σ ε β) :=
  match w.bus.queue, limit with
  | [], _ => []
  | _ :: _, 0 => []
  | e :: queue, limit + 1 =>
    let w : World σ ε β := { w with bus := { w.bus with queue } }
    w.roundCalls respond e ++ drainCalls limit (w.round respond e)

/-- The calls of an emission from outside. -/
def World.emitCalls (limit : ℕ) (e : ε) (w : World σ ε β) : List (Call σ ε β) :=
  (w.due e).roundCalls respond e ++ ((w.due e).round respond e).drainCalls respond limit

/-- The calls of a run from outside. -/
def Program.performCalls (limit : ℕ) : Program σ ε β α → World σ ε β → List (Call σ ε β)
  | .done _, _ => []
  | .request (.emit e) next, w =>
    w.emitCalls respond limit e ++
      match w.emit respond limit e with
      | .ok w => (next ()).performCalls limit w
      | .error _ => []
  | .request r next, w => (next (w.answer r).1).performCalls limit (w.answer r).2

lemma World.drain_of_nil {w : World σ ε β} (h : w.bus.queue = []) (limit : ℕ) :
    w.drain respond limit = .ok w ∧ w.drainCalls respond limit = [] := by
  unfold drain drainCalls
  simp [h]

lemma World.drain_zero_of_cons {w : World σ ε β} {e : ε} {queue : List ε}
    (h : w.bus.queue = e :: queue) :
    w.drain respond 0 = .error w ∧ w.drainCalls respond 0 = [] := by
  unfold drain drainCalls
  simp [h]

lemma World.drain_succ_of_cons {w : World σ ε β} {e : ε} {queue : List ε}
    (h : w.bus.queue = e :: queue) (limit : ℕ) :
    let next : World σ ε β := { w with bus := { w.bus with queue } }
    w.drain respond (limit + 1) = (next.round respond e).drain respond limit ∧
      w.drainCalls respond (limit + 1) =
        next.roundCalls respond e ++ (next.round respond e).drainCalls respond limit := by
  rw [drain.eq_def, drainCalls.eq_def]
  simp only [h, and_self]

end Calls

/-- On the way from this stage the call begins. -/
def BeginsFrom (s : Stage ε β × World σ ε β) (c : Call σ ε β) : Prop :=
  ∃ v waiting, Steps False s (.turns c.event (c.listener :: waiting), v) ∧
    c.listener.id ∉ v.bus.removals ∧ c.world = v.note (.called c.listener.id c.event)

lemma BeginsFrom.after {s t : Stage ε β × World σ ε β} {c : Call σ ε β} (hsteps : Steps False s t)
    (h : BeginsFrom t c) : BeginsFrom s c := by
  obtain ⟨v, waiting, hturn, hstays, hworld⟩ := h
  exact ⟨v, waiting, hsteps.trans hturn, hstays, hworld⟩

section Begins

variable (respond : β → ε → Program σ ε β Unit) {c : Call σ ε β}

lemma World.turnsCalls_begin {e : ε} {w : World σ ε β} {waiting : List (Listener β)}
    (h : c ∈ w.turnsCalls respond e waiting) : BeginsFrom (.turns e waiting, w) c := by
  induction waiting generalizing w with
  | nil => cases h
  | cons l waiting ih =>
      rcases List.mem_append.mp h with h | h
      · unfold turnCalls at h
        split at h
        next => cases h
        next hstays =>
          obtain rfl := List.mem_singleton.mp h
          exact ⟨w, waiting, .refl, by simpa using hstays, rfl⟩
      · exact (ih h).after (turn_steps respond e l waiting w)

lemma World.roundCalls_begin {e : ε} {w : World σ ε β} (h : c ∈ w.roundCalls respond e) :
    BeginsFrom (.starting e, w) c :=
  (turnsCalls_begin respond h).after (.single (.start e))

lemma World.drainCalls_begin {limit : ℕ} {w : World σ ε β}
    (h : c ∈ w.drainCalls respond limit) : BeginsFrom (.between, w) c := by
  fun_induction drainCalls respond limit w with
  | case1 w limit hqueue => cases h
  | case2 w e queue hqueue => cases h
  | case3 w e queue limit hqueue next ih =>
      rcases List.mem_append.mp h with h | h
      · exact (roundCalls_begin respond h).after (.single (.next hqueue))
      · exact (ih h).after (.head (.next hqueue) (round_steps respond e _))

lemma World.emitCalls_begin {limit : ℕ} {e : ε} {w : World σ ε β}
    (h : c ∈ w.emitCalls respond limit e) : BeginsFrom (.starting e, w.due e) c := by
  rcases List.mem_append.mp h with h | h
  · exact roundCalls_begin respond h
  · exact (drainCalls_begin respond h).after (round_steps respond e _)

theorem Program.performCalls_begin {limit : ℕ} {p : Program σ ε β α} {w : World σ ε β}
    (h : c ∈ p.performCalls respond limit w) : BeginsFrom (.outside, w) c := by
  fun_induction Program.performCalls respond limit p w with
  | case1 a w => cases h
  | case2 e next w ih =>
      have hemit := World.emit_steps respond limit e w
      rcases List.mem_append.mp h with h | h
      · exact (World.emitCalls_begin respond h).after (.single (.emit e))
      · cases hw : w.emit respond limit e with
        | ok w' =>
            rw [hw] at h hemit
            exact (ih w' h).after (.head (.emit e) hemit)
        | error w' =>
            rw [hw] at h
            cases h
  | case3 r next w hr ih =>
      exact (ih h).after (.single (.answer r (Request.isEmit_eq_false hr)))

end Begins

lemma Program.run_bind {γ : Type} (q : Program σ ε β α) (f : α → Program σ ε β γ)
    (w : World σ ε β) : (q >>= f).run w = (f (q.run w).1).run (q.run w).2 := by
  induction q generalizing w with
  | done a => rfl
  | request r next ih => exact ih _ _

lemma Program.run_discard (q : Program σ ε β α) (w : World σ ε β) :
    ((discard q : Program σ ε β Unit).run w).2 = (q.run w).2 :=
  congrArg Prod.snd (run_bind q (fun _ => .done ()) w)

/-- What a program enters into the journal are its requests. -/
lemma Program.run_requests (q : Program σ ε β α) (w : World σ ε β) :
    ∃ made, (q.run w).2.happenings = w.happenings ++ made ∧ ∀ x ∈ made, x.isRequest = true := by
  induction q generalizing w with
  | done a => exact ⟨[], by simp [Program.run], by simp⟩
  | request r next ih =>
      obtain ⟨made, heq, hmade⟩ := ih (w.answer r).1 (w.answer r).2
      rcases (World.answered w r).journal with hsame | ⟨x, hx, hrequest⟩
      · exact ⟨made, heq.trans (by rw [hsame]), hmade⟩
      · refine ⟨x :: made, ?_, List.forall_mem_cons.mpr ⟨hrequest, hmade⟩⟩
        rw [Program.run, heq, hx, List.append_assoc, List.singleton_append]

/-- The journal tells of these calls from the one world to the other, and of no others. -/
def Told (w w' : World σ ε β) (calls : List (Call σ ε β)) : Prop :=
  w'.happenings.filterMap call? = w.happenings.filterMap call? ++ calls.map Call.entry

section Told

variable {w w' : World σ ε β}

lemma Told.refl (w : World σ ε β) : Told w w [] := (List.append_nil _).symm

lemma Told.trans {v : World σ ε β} {calls calls' : List (Call σ ε β)} (h : Told w v calls)
    (h' : Told v w' calls') : Told w w' (calls ++ calls') := by
  unfold Told at *
  rw [h', h, List.map_append, List.append_assoc]

lemma Told.note (bus : Bus ε β) {x : Happening ε} (hx : x.call? = none) :
    Told w ({ w with bus }.note x) [] := by
  simp [Told, hx]

lemma told_of_requests {made : List (Happening ε)} (heq : w'.happenings = w.happenings ++ made)
    (hmade : ∀ x ∈ made, x.isRequest = true) : Told w w' [] := by
  have hnone : made.filterMap call? = [] :=
    List.filterMap_eq_nil_iff.mpr fun x hx => call?_of_isRequest (hmade x hx)
  simp [Told, heq, hnone]

lemma told_answer (w : World σ ε β) (r : Request σ ε β) : Told w (w.answer r).2 [] := by
  rcases (World.answered w r).journal with heq | ⟨x, heq, hx⟩
  · simp [Told, heq]
  · exact told_of_requests heq (by simpa using hx)

variable (respond : β → ε → Program σ ε β Unit)

lemma told_turn (w : World σ ε β) (e : ε) (l : Listener β) :
    Told w (w.turn respond e l) (w.turnCalls e l) := by
  unfold World.turn World.turnCalls
  split
  · exact .refl w
  · have hcall : Told w (w.note (.called l.id e)) [⟨l, e, w.note (.called l.id e)⟩] := by
      simp [Told, call?, Call.entry]
    obtain ⟨made, heq, hmade⟩ :=
      Program.run_requests (respond l.body e) (w.note (.called l.id e))
    exact (hcall.trans (told_of_requests heq hmade)).trans (.note _ rfl)

lemma told_turns (w : World σ ε β) (e : ε) (waiting : List (Listener β)) :
    Told w (waiting.foldl (World.turn respond e) w) (w.turnsCalls respond e waiting) := by
  induction waiting generalizing w with
  | nil => exact .refl w
  | cons l waiting ih => exact (told_turn respond w e l).trans (ih _)

lemma told_round (w : World σ ε β) (e : ε) :
    Told w (w.round respond e) (w.roundCalls respond e) := by
  have hbegan : Told w (w.note (.roundBegan e)) [] := .note w.bus rfl
  have hended : Told ((w.note (.roundBegan e)).bus.listeners.foldl (World.turn respond e)
      (w.note (.roundBegan e))) (w.round respond e) [] := .note (Bus.settle _) rfl
  have hround := (hbegan.trans (told_turns respond _ e w.bus.listeners)).trans hended
  rwa [List.nil_append, List.append_nil] at hround

lemma told_drain (limit : ℕ) (w : World σ ε β) :
    match w.drain respond limit with
    | .ok w' | .error w' => Told w w' (w.drainCalls respond limit) := by
  fun_induction World.drainCalls respond limit w with
  | case1 limit w hqueue =>
      rw [(World.drain_of_nil respond hqueue _).1]
      exact .refl w
  | case2 w e queue hqueue =>
      rw [(World.drain_zero_of_cons respond hqueue).1]
      exact .refl w
  | case3 w e queue limit hqueue next ih =>
      have hround : Told w (next.round respond e) (next.roundCalls respond e) :=
        told_round respond next e
      have hdrain : w.drain respond (limit + 1) = (next.round respond e).drain respond limit :=
        (World.drain_succ_of_cons respond hqueue limit).1
      rw [hdrain]
      split at ih
      · exact hround.trans ih
      · exact hround.trans ih

lemma told_emit (limit : ℕ) (e : ε) (w : World σ ε β) :
    match w.emit respond limit e with
    | .ok w' | .error w' => Told w w' (w.emitCalls respond limit e) := by
  have hdue : Told w (w.due e) [] := .note _ rfl
  have hround := hdue.trans (told_round respond (w.due e) e)
  have hdrain := told_drain respond limit ((w.due e).round respond e)
  rw [World.emit_eq]
  split at hdrain
  next w' heq =>
    simp only [heq, Except.map]
    exact hround.trans hdrain
  next w' heq =>
    simp only [heq, Except.map]
    exact hround.trans hdrain

/-- The journal of a run tells of the calls of the run. -/
theorem told_perform (limit : ℕ) (p : Program σ ε β α) (w : World σ ε β) :
    Told w (World.reached (p.perform respond limit w)) (p.performCalls respond limit w) := by
  fun_induction Program.performCalls respond limit p w with
  | case1 a w => exact .refl w
  | case2 e next w ih =>
      have hemit := told_emit respond limit e w
      rw [Program.perform]
      cases hw : w.emit respond limit e with
      | ok w' =>
          rw [hw] at hemit
          exact hemit.trans (ih w')
      | error w' =>
          rw [hw] at hemit
          rwa [List.append_nil]
  | case3 r next w hr ih =>
      have hr' : (Program.request r next).perform respond limit w =
          (next (w.answer r).1).perform respond limit (w.answer r).2 := by
        cases r with
        | emit e => exact (hr e next rfl HEq.rfl).elim
        | _ => rfl
      rw [hr']
      exact (told_answer w r).trans ih

end Told

end Keychord.Bus
