import Keychord.Bus.Owning
import Keychord.Proofs.Bus.Steps

/-!
# Runs in which listeners own subscriptions

A run goes by steps also if listeners own subscriptions. What is released when those who were
taken off leave are then steps of their own, between the last turn and the end of the round. The
same is true of the points of a run, outside of its emissions and inside the listeners. If nobody
owns anything, a run is what it is without ownership.
-/
namespace Keychord.Bus.Owning

variable {σ ε β α : Type} (owns : σ → Listener β → List Subscription)

/-- What is run takes steps from here, to the given stage unless it is broken off. -/
def Leads (s : Stage ε β × World σ ε β) (stage : Stage ε β) :
    Except (World σ ε β) (World σ ε β) → Prop
  | .ok w => Steps True s (stage, w)
  | .error w => ∃ other, Steps True s (other, w)

section Leads

variable {s t : Stage ε β × World σ ε β} {stage stage' : Stage ε β}
  {x : Except (World σ ε β) (World σ ε β)}

lemma Leads.bind {f : World σ ε β → Except (World σ ε β) (World σ ε β)} (h : Leads s stage x)
    (hf : ∀ w, x = .ok w → Leads (stage, w) stage' (f w)) : Leads s stage' (x >>= f) := by
  cases x with
  | error w => exact h
  | ok w =>
      change Leads s stage' (f w)
      have hnext := hf w rfl
      cases hfw : f w with
      | ok v =>
          rw [hfw] at hnext
          exact Relation.ReflTransGen.trans h hnext
      | error v =>
          rw [hfw] at hnext
          obtain ⟨other, hother⟩ := hnext
          exact ⟨other, Relation.ReflTransGen.trans h hother⟩

lemma Leads.head (h : Step True s t) (hx : Leads t stage x) : Leads s stage x := by
  cases x with
  | ok w => exact .head h hx
  | error w =>
      obtain ⟨other, hother⟩ := hx
      exact ⟨other, .head h hother⟩

lemma leads_ok {w v : World σ ε β} (h : Step True (stage, w) (stage', v)) :
    Leads (stage, w) stage' (.ok v) :=
  Relation.ReflTransGen.single h

end Leads

lemma answer_cases (w : World σ ε β) (r : Request σ ε β) :
    answer owns w r = .ok (w.answer r) ∨ answer owns w r = .error w := by
  unfold answer
  split
  · exact .inl rfl
  · exact .inr rfl

lemma run_leads (q : Program σ ε β α) (w : World σ ε β) (e : ε) (l : Listener β)
    (waiting : List (Listener β)) :
    Leads (.inside e l waiting, w) (.inside e l waiting) (Prod.snd <$> run owns q w) := by
  induction q generalizing w with
  | done a => exact Relation.ReflTransGen.refl
  | request r next ih =>
      rw [run]
      rcases answer_cases owns w r with h | h
      · rw [h]
        exact (ih _ _).head (.request r)
      · rw [h]
        exact ⟨_, .refl⟩

section LetGo

variable {owns}

lemma letGo_leads {w : World σ ε β} {s : Subscription} (hs : s.id.number < w.bus.nextId) (e : ε) :
    Leads (.leaving e, w) (.leaving e) (letGo owns w s) := by
  unfold letGo
  split
  · exact leads_ok (.letGo trivial hs)
  · exact ⟨_, .refl⟩

lemma nextId_letGo {w w' : World σ ε β} {s : Subscription} (h : letGo owns w s = .ok w') :
    w'.bus.nextId = w.bus.nextId := by
  unfold letGo at h
  split at h
  · cases h
    exact nextId_remove _ _
  · cases h

lemma letGoAll_leads {w : World σ ε β} {held : List Subscription}
    (h : ∀ s ∈ held, s.id.number < w.bus.nextId) (e : ε) :
    Leads (.leaving e, w) (.leaving e) (held.foldlM (letGo owns) w) := by
  induction held generalizing w with
  | nil => exact Relation.ReflTransGen.refl
  | cons s held ih =>
      rw [List.forall_mem_cons] at h
      rw [List.foldlM_cons]
      refine (letGo_leads h.1 e).bind fun v hv => ih ?_
      rw [nextId_letGo hv]
      exact h.2

lemma close_leads (w : World σ ε β) (e : ε) :
    Leads (.turns e [], w) .between (close owns e w) := by
  refine Leads.head .retire ?_
  refine (letGoAll_leads (fun s hs => ?_) e).bind fun v _ => leads_ok .join
  obtain ⟨l, -, hs⟩ := List.mem_flatMap.mp hs
  exact of_decide_eq_true (List.mem_filter.mp hs).2

end LetGo

section Respond

variable (respond : β → ε → Program σ ε β Unit)

lemma turn_leads (w : World σ ε β) (e : ε) (l : Listener β) (waiting : List (Listener β)) :
    Leads (.turns e (l :: waiting), w) (.turns e waiting) (turn owns respond e w l) := by
  unfold turn
  split
  next h => exact leads_ok (.skip (by simpa using h))
  next h =>
    refine Leads.head (.call (by simpa using h)) ?_
    have hrun := run_leads owns (respond l.body e) (w.note (.called l.id e)) e l waiting
    have hreturn := hrun.bind fun v _ => leads_ok (.return (w := v))
    rwa [bind_map_left] at hreturn

lemma turns_leads (w : World σ ε β) (e : ε) (waiting : List (Listener β)) :
    Leads (.turns e waiting, w) (.turns e []) (waiting.foldlM (turn owns respond e) w) := by
  induction waiting generalizing w with
  | nil => exact Relation.ReflTransGen.refl
  | cons l waiting ih =>
      rw [List.foldlM_cons]
      exact (turn_leads owns respond w e l waiting).bind fun v _ => ih v

lemma round_leads (w : World σ ε β) (e : ε) :
    Leads (.starting e, w) .between (round owns respond e w) :=
  Leads.head (.start e) ((turns_leads owns respond _ e _).bind fun v _ => close_leads v e)

/-- A drain ends with an empty queue unless it is broken off. -/
lemma queue_of_drain {limit : ℕ} {w w' : World σ ε β}
    (h : drain owns respond limit w = .ok w') : w'.bus.queue = [] := by
  fun_induction drain owns respond limit w with
  | case1 w limit hqueue =>
      cases h
      exact hqueue
  | case2 w e queue hqueue => cases h
  | case3 w e queue limit hqueue ih =>
      cases hround : round owns respond e { w with bus := { w.bus with queue } } with
      | error v => rw [hround] at h; cases h
      | ok v =>
          rw [hround] at h
          exact ih v h

lemma drain_leads (limit : ℕ) (w : World σ ε β) :
    Leads (.between, w) .between (drain owns respond limit w) := by
  fun_induction drain owns respond limit w with
  | case1 w limit hqueue => exact Relation.ReflTransGen.refl
  | case2 w e queue hqueue => exact ⟨_, .refl⟩
  | case3 w e queue limit hqueue ih =>
      exact Leads.head (.next hqueue) ((round_leads owns respond _ e).bind fun v _ => ih v)

lemma emit_leads (limit : ℕ) (e : ε) (w : World σ ε β) :
    Leads (.outside, w) .outside (emit owns respond limit e w) := by
  refine Leads.head (.emit e) ?_
  refine (round_leads owns respond _ e).bind fun v _ => ?_
  refine (drain_leads owns respond limit v).bind fun u hu => ?_
  exact leads_ok (.finish (queue_of_drain owns respond hu))

theorem perform_leads (limit : ℕ) (p : Program σ ε β α) (w : World σ ε β) :
    Leads (.outside, w) .outside (Prod.snd <$> perform owns respond limit p w) := by
  fun_induction perform owns respond limit p w with
  | case1 a w => exact Relation.ReflTransGen.refl
  | case2 e next w ih =>
      rw [map_bind]
      exact (emit_leads owns respond limit e w).bind fun v _ => ih v
  | case3 r next w hr ih =>
      rcases answer_cases owns w r with h | h
      · rw [h]
        exact (ih _ _).head (.answer r (Request.isEmit_eq_false hr))
      · rw [h]
        exact ⟨_, .refl⟩

/-- However far a run has come, it has come there by steps. -/
theorem reached_steps (limit : ℕ) (p : Program σ ε β α) (w : World σ ε β) :
    ∃ stage, Steps True (.outside, w)
      (stage, World.reached (perform owns respond limit p w)) := by
  have h := perform_leads owns respond limit p w
  cases hp : perform owns respond limit p w with
  | ok result =>
      rw [hp] at h
      exact ⟨_, h⟩
  | error v =>
      rw [hp] at h
      exact h

end Respond

section Points

variable (respond : β → ε → Program σ ε β Unit) (limit : ℕ)

/-- A program that runs during a delivery comes to this world, with some of its requests answered. -/
inductive Passes : Program σ ε β α → World σ ε β → World σ ε β → Prop
  | here (q : Program σ ε β α) (w : World σ ε β) : Passes q w w
  | answer {r : Request σ ε β} {next : r.Answer → Program σ ε β α} {w w' v : World σ ε β}
      {a : r.Answer} (ha : answer owns w r = .ok (a, w')) (h : Passes (next a) w' v) :
      Passes (.request r next) w v

/-- Inside this listener, the turns of those who wait come to this world. -/
inductive InTurns (e : ε) (l : Listener β) (v : World σ ε β) :
    World σ ε β → List (Listener β) → Prop
  | here {w : World σ ε β} {waiting : List (Listener β)} (hl : l.id ∉ w.bus.removals)
      (h : Passes owns (respond l.body e) (w.note (.called l.id e)) v) :
      InTurns e l v w (l :: waiting)
  | later {w u : World σ ε β} {k : Listener β} {waiting : List (Listener β)}
      (hk : turn owns respond e w k = .ok u) (h : InTurns e l v u waiting) :
      InTurns e l v w (k :: waiting)

/-- Inside this listener, with event `e`, the rounds from here on come to this world. The first
number is that of the rounds that may follow, and the event after it that of the next round. -/
inductive InRounds (e : ε) (l : Listener β) (v : World σ ε β) : ℕ → ε → World σ ε β → Prop
  | here {limit : ℕ} {w : World σ ε β}
      (h : InTurns owns respond e l v (w.note (.roundBegan e)) w.bus.listeners) :
      InRounds e l v limit e w
  | later {limit : ℕ} {first following : ε} {queue : List ε} {w u : World σ ε β}
      (hu : round owns respond first w = .ok u) (hqueue : u.bus.queue = following :: queue)
      (h : InRounds e l v limit following { u with bus := { u.bus with queue } }) :
      InRounds e l v (limit + 1) first w

/-- A program that is run from outside comes to this world inside this listener. -/
inductive IsInside (e : ε) (l : Listener β) (v : World σ ε β) :
    Program σ ε β α → World σ ε β → Prop
  | now {x : ε} {next : Unit → Program σ ε β α} {w : World σ ε β}
      (h : InRounds owns respond e l v limit x (w.due x)) : IsInside e l v (.request (.emit x) next) w
  | emit {x : ε} {next : Unit → Program σ ε β α} {w w' : World σ ε β}
      (hw : emit owns respond limit x w = .ok w') (h : IsInside e l v (next ()) w') :
      IsInside e l v (.request (.emit x) next) w
  | answer {r : Request σ ε β} {next : r.Answer → Program σ ε β α} {w w' : World σ ε β}
      {a : r.Answer} (hr : r.isEmit = false) (ha : answer owns w r = .ok (a, w'))
      (h : IsInside e l v (next a) w') : IsInside e l v (.request r next) w

/-- A program that is run from outside comes to this world, when some of its operations have
returned. -/
inductive RestsAt : Program σ ε β α → World σ ε β → World σ ε β → Prop
  | here (q : Program σ ε β α) (w : World σ ε β) : RestsAt q w w
  | emit {e : ε} {next : Unit → Program σ ε β α} {w w' v : World σ ε β}
      (hw : emit owns respond limit e w = .ok w') (h : RestsAt (next ()) w' v) :
      RestsAt (.request (.emit e) next) w v
  | answer {r : Request σ ε β} {next : r.Answer → Program σ ε β α} {w w' v : World σ ε β}
      {a : r.Answer} (hr : r.isEmit = false) (ha : answer owns w r = .ok (a, w'))
      (h : RestsAt (next a) w' v) : RestsAt (.request r next) w v

variable {owns respond limit}

lemma answer_eq_ok {w w' : World σ ε β} {r : Request σ ε β} {a : r.Answer}
    (h : answer owns w r = .ok (a, w')) : (a, w') = w.answer r := by
  rcases answer_cases owns w r with h' | h'
  · rw [h'] at h
    exact (Except.ok.inj h).symm
  · rw [h'] at h
    cases h

lemma Passes.steps {q : Program σ ε β α} {w v : World σ ε β} (h : Passes owns q w v) (e : ε)
    (l : Listener β) (waiting : List (Listener β)) :
    Steps True (.inside e l waiting, w) (.inside e l waiting, v) := by
  induction h with
  | here q w => exact .refl
  | @answer r next w w' v a ha _ ih =>
      obtain ⟨rfl, rfl⟩ := Prod.mk.inj (answer_eq_ok ha)
      exact .head (.request r) ih

lemma InTurns.steps {e : ε} {l : Listener β} {v w : World σ ε β} {waiting : List (Listener β)}
    (h : InTurns owns respond e l v w waiting) :
    ∃ rest, Steps True (.turns e waiting, w) (.inside e l rest, v) := by
  induction h with
  | here hl h => exact ⟨_, .head (.call hl) (h.steps e l _)⟩
  | @later w u k waiting hk _ ih =>
      obtain ⟨rest, hrest⟩ := ih
      have hturn := turn_leads owns respond w e k waiting
      rw [hk] at hturn
      exact ⟨rest, Relation.ReflTransGen.trans hturn hrest⟩

lemma InRounds.steps {e first : ε} {l : Listener β} {v w : World σ ε β} {limit : ℕ}
    (h : InRounds owns respond e l v limit first w) :
    ∃ rest, Steps True (.starting first, w) (.inside e l rest, v) := by
  induction h with
  | here h =>
      obtain ⟨rest, hrest⟩ := h.steps
      exact ⟨rest, .head (.start e) hrest⟩
  | @later limit first following queue w u hu hqueue _ ih =>
      obtain ⟨rest, hrest⟩ := ih
      have hround := round_leads owns respond w first
      rw [hu] at hround
      exact ⟨rest, Relation.ReflTransGen.trans hround (.head (.next hqueue) hrest)⟩

lemma IsInside.steps {e : ε} {l : Listener β} {v w : World σ ε β} {p : Program σ ε β α}
    (h : IsInside owns respond limit e l v p w) :
    ∃ rest, Steps True (.outside, w) (.inside e l rest, v) := by
  induction h with
  | now h =>
      obtain ⟨rest, hrest⟩ := h.steps
      exact ⟨rest, .head (.emit _) hrest⟩
  | @emit x next w w' hw _ ih =>
      obtain ⟨rest, hrest⟩ := ih
      have hemit := emit_leads owns respond limit x w
      rw [hw] at hemit
      exact ⟨rest, Relation.ReflTransGen.trans hemit hrest⟩
  | @answer r next w w' a hr ha _ ih =>
      obtain ⟨rfl, rfl⟩ := Prod.mk.inj (answer_eq_ok ha)
      obtain ⟨rest, hrest⟩ := ih
      exact ⟨rest, .head (.answer r hr) hrest⟩

lemma RestsAt.steps {p : Program σ ε β α} {w v : World σ ε β}
    (h : RestsAt owns respond limit p w v) : Steps True (.outside, w) (.outside, v) := by
  induction h with
  | here q w => exact .refl
  | @emit e next w w' v hw _ ih =>
      have hemit := emit_leads owns respond limit e w
      rw [hw] at hemit
      exact Relation.ReflTransGen.trans hemit ih
  | @answer r next w w' v a hr ha _ ih =>
      obtain ⟨rfl, rfl⟩ := Prod.mk.inj (answer_eq_ok ha)
      exact .head (.answer r hr) ih

/-- The end of a run is one of its points. -/
lemma restsAt_of_perform {p : Program σ ε β α} {w v : World σ ε β} {a : α}
    (h : perform owns respond limit p w = .ok (a, v)) : RestsAt owns respond limit p w v := by
  fun_induction perform owns respond limit p w with
  | case1 b w =>
      cases h
      exact .here _ _
  | case2 e next w ih =>
      cases hw : emit owns respond limit e w with
      | ok w' =>
          rw [hw] at h
          exact .emit hw (ih w' h)
      | error w' =>
          rw [hw] at h
          cases h
  | case3 r next w hr ih =>
      cases hw : answer owns w r with
      | ok result =>
          rw [hw] at h
          exact .answer (Request.isEmit_eq_false hr) hw (ih result.1 result.2 h)
      | error w' =>
          rw [hw] at h
          cases h

end Points

section Nobody

variable {owns} (howns : ∀ memory (l : Listener β), owns memory l = [])
include howns

lemma answer_of_owns_nothing (w : World σ ε β) (r : Request σ ε β) :
    answer owns w r = .ok (w.answer r) := by
  have hclear : ∀ id, clear owns w id = true := by
    intro id
    simp [clear, owned, howns]
  unfold answer
  cases r.leaver? with
  | none => rfl
  | some id => rw [Option.all_some, hclear, if_pos rfl]

lemma run_of_owns_nothing (q : Program σ ε β α) (w : World σ ε β) :
    run owns q w = .ok (q.run w) := by
  induction q generalizing w with
  | done a => rfl
  | request r next ih =>
      rw [run, answer_of_owns_nothing howns]
      exact ih _ _

lemma close_of_owns_nothing (w : World σ ε β) (e : ε) :
    close owns e w = .ok ({ w with bus := w.bus.settle }.note (.roundEnded e)) := by
  have hnone : ∀ dropped : List (Listener β), dropped.flatMap (owned owns w) = [] := by
    intro dropped
    simp [owned, howns]
  rw [close, hnone]
  rfl

variable (respond : β → ε → Program σ ε β Unit)

lemma turn_of_owns_nothing (w : World σ ε β) (e : ε) (l : Listener β) :
    turn owns respond e w l = .ok (w.turn respond e l) := by
  unfold turn World.turn
  split
  · rfl
  · rw [run_of_owns_nothing howns]
    rfl

lemma round_of_owns_nothing (w : World σ ε β) (e : ε) :
    round owns respond e w = .ok (w.round respond e) := by
  have hturns : ∀ (waiting : List (Listener β)) (w : World σ ε β),
      waiting.foldlM (turn owns respond e) w = .ok (waiting.foldl (World.turn respond e) w) := by
    intro waiting
    induction waiting with
    | nil => exact fun w => rfl
    | cons l waiting ih =>
        intro w
        rw [List.foldlM_cons, turn_of_owns_nothing howns]
        exact ih _
  rw [round, hturns]
  exact close_of_owns_nothing howns _ e

lemma drain_of_owns_nothing (limit : ℕ) (w : World σ ε β) :
    drain owns respond limit w = w.drain respond limit := by
  fun_induction World.drain respond limit w with
  | case1 w limit hqueue =>
      unfold drain
      simp [hqueue]
  | case2 w e queue hqueue =>
      unfold drain
      simp [hqueue]
  | case3 w e queue limit hqueue ih =>
      unfold drain
      simp only [hqueue]
      rw [round_of_owns_nothing howns]
      exact ih

lemma emit_of_owns_nothing (limit : ℕ) (e : ε) (w : World σ ε β) :
    emit owns respond limit e w = w.emit respond limit e := by
  rw [World.emit_eq, emit, round_of_owns_nothing howns]
  change (drain owns respond limit ((w.due e).round respond e) >>= fun w => pure w.rest) = _
  rw [drain_of_owns_nothing howns, bind_pure_comp]
  rfl

/-- If nobody owns a subscription, a run is what it is without ownership. -/
theorem perform_of_owns_nothing (limit : ℕ) (p : Program σ ε β α) (w : World σ ε β) :
    perform owns respond limit p w = p.perform respond limit w := by
  fun_induction Program.perform respond limit p w with
  | case1 a w => rfl
  | case2 e next w w' h ih =>
      rw [perform, emit_of_owns_nothing howns, h]
      exact ih
  | case3 e next w w' h =>
      rw [perform, emit_of_owns_nothing howns, h]
      rfl
  | case4 r next w hr ih =>
      rw [perform, answer_of_owns_nothing howns]
      · exact ih
      · exact hr

lemma RestsAt.steps_of_owns_nothing {respond : β → ε → Program σ ε β Unit} {limit : ℕ}
    {p : Program σ ε β α} {w v : World σ ε β} (h : RestsAt owns respond limit p w v) :
    Steps False (.outside, w) (.outside, v) := by
  induction h with
  | here q w => exact .refl
  | @emit e next w w' v hw _ ih =>
      have hemit := World.emit_steps respond limit e w
      rw [emit_of_owns_nothing howns] at hw
      rw [hw] at hemit
      exact .head (.emit e) (hemit.trans ih)
  | @answer r next w w' v a hr ha _ ih =>
      obtain ⟨rfl, rfl⟩ := Prod.mk.inj (answer_eq_ok ha)
      exact .head (.answer r hr) ih

end Nobody

end Keychord.Bus.Owning
