import Keychord.Proofs.Bus.Order

/-!
# Nested emissions and emissions one after another

An event that a listener emits is delivered after the round in progress, within the emission
from outside that is going on. This is the same as if the listeners emitted nothing and the
events were emitted from outside, one after another in the order in which the listeners would
have emitted them. The bus is between two rounds of one emission as it is between two
emissions, but for the queue and for knowing that it is busy.
-/
namespace Keychord.Bus

variable {σ ε β α : Type}

open Happening

/-- The program without its emissions. -/
def Program.mute : Program σ ε β α → Program σ ε β α
  | .done a => .done a
  | .request (.emit _) next => (next ()).mute
  | .request r next => .request r fun answer => (next answer).mute

lemma Program.mute_request {r : Request σ ε β} (next : r.Answer → Program σ ε β α)
    (hr : r.isEmit = false) :
    (Program.request r next).mute = .request r fun answer => (next answer).mute := by
  cases r with
  | emit e => cases hr
  | _ => rfl

/-- Emits events one after another. -/
def Program.emitAll : List ε → Program σ ε β Unit
  | [] => .done ()
  | e :: es => .request (.emit e) fun _ => emitAll es

/-- What happened besides emissions. -/
def besidesEmissions (hs : List (Happening ε)) : List (Happening ε) :=
  hs.filter fun x => x.emission?.isNone

@[simp] lemma besidesEmissions_append (xs ys : List (Happening ε)) :
    besidesEmissions (xs ++ ys) = besidesEmissions xs ++ besidesEmissions ys :=
  List.filter_append xs ys

@[simp] lemma besidesEmissions_emitted (e : ε) :
    besidesEmissions [Happening.emitted e] = [] :=
  rfl

lemma calls_besidesEmissions (hs : List (Happening ε)) :
    (besidesEmissions hs).filterMap call? = hs.filterMap call? := by
  unfold besidesEmissions
  rw [List.filterMap_filter]
  congr 1
  funext x
  cases x <;> rfl

/-- The second world has come about without the emissions of the first. -/
structure Echo (w v : World σ ε β) : Prop where
  bus : v.bus = { w.bus with queue := [] }
  memory : v.memory = w.memory
  happenings : besidesEmissions v.happenings = besidesEmissions w.happenings

section Echo

variable {w v : World σ ε β}

lemma Echo.note (h : Echo w v) (x : Happening ε) : Echo (w.note x) (v.note x) where
  bus := h.bus
  memory := h.memory
  happenings := by simp [h.happenings]

lemma Echo.note_bus (h : Echo w v) {bus bus' : Bus ε β} (x : Happening ε)
    (hbus : bus' = { bus with queue := [] }) :
    Echo ({ w with bus }.note x) ({ v with bus := bus' }.note x) where
  bus := hbus
  memory := h.memory
  happenings := by simp [h.happenings]

/-- The first world may go on with an emission. -/
lemma Echo.emitted_left (h : Echo w v) {bus : Bus ε β} (e : ε)
    (hbus : v.bus = { bus with queue := [] }) : Echo ({ w with bus }.note (.emitted e)) v where
  bus := hbus
  memory := h.memory
  happenings := by simp [h.happenings]

/-- The second world may, too: what it emits is delivered at once. -/
lemma Echo.emitted_right (h : Echo w v) {bus : Bus ε β} (e : ε)
    (hbus : bus = { w.bus with queue := [] }) :
    Echo w ({ v with bus }.note (.emitted e)) where
  bus := hbus
  memory := h.memory
  happenings := by simp [h.happenings]

lemma add_silent (bus : Bus ε β) (body : β) :
    ({ bus with queue := [] } : Bus ε β).add body =
      ((bus.add body).1, { (bus.add body).2 with queue := [] }) := by
  unfold add
  split <;> rfl

lemma remove_silent (bus : Bus ε β) (id : ListenerId) :
    ({ bus with queue := [] } : Bus ε β).remove id = { bus.remove id with queue := [] } := by
  unfold remove
  split <;> rfl

/-- Both worlds answer alike. -/
lemma Echo.answer (h : Echo w v) {r : Request σ ε β} (hr : r.isEmit = false) :
    (v.answer r).1 = (w.answer r).1 ∧ Echo (w.answer r).2 (v.answer r).2 := by
  cases r with
  | load => exact ⟨h.memory, h⟩
  | store memory => exact ⟨rfl, ⟨h.bus, rfl, h.happenings⟩⟩
  | add body =>
      simp only [World.answer, h.bus, add_silent]
      exact ⟨rfl, h.note_bus _ rfl⟩
  | subscribe body =>
      simp only [World.answer, h.bus, add_silent]
      exact ⟨rfl, h.note_bus _ rfl⟩
  | remove id =>
      simp only [World.answer, h.bus, remove_silent]
      exact ⟨rfl, h.note_bus _ rfl⟩
  | release s =>
      simp only [World.answer, h.bus, remove_silent]
      exact ⟨rfl, h.note_bus _ rfl⟩
  | emit e => cases hr
  | look =>
      simp only [World.answer, h.bus]
      exact ⟨rfl, h⟩

lemma Echo.run (q : Program σ ε β α) (h : Echo w v) :
    (q.mute.run v).1 = (q.run w).1 ∧ Echo (q.run w).2 (q.mute.run v).2 := by
  induction q generalizing w v with
  | done a => exact ⟨rfl, h⟩
  | request r next ih =>
      cases hr : r.isEmit with
      | true =>
          obtain ⟨e, rfl⟩ : ∃ e, r = .emit e := by
            cases r with
            | emit e => exact ⟨e, rfl⟩
            | _ => cases hr
          exact ih () (h.emitted_left e h.bus)
      | false =>
          rw [Program.mute_request next hr]
          obtain ⟨hanswer, hworld⟩ := h.answer hr
          simp only [Program.run, hanswer]
          exact ih _ hworld

end Echo

/-- The listeners without their emissions. -/
def muted (respond : β → ε → Program σ ε β Unit) : β → ε → Program σ ε β Unit :=
  fun body e => (respond body e).mute

section Round

variable {w v : World σ ε β} (respond : β → ε → Program σ ε β Unit)

lemma Echo.turn (h : Echo w v) (e : ε) (l : Listener β) :
    Echo (w.turn respond e l) (v.turn (muted respond) e l) := by
  have hremovals : v.bus.removals = w.bus.removals := by rw [h.bus]
  unfold World.turn
  rw [hremovals]
  split
  · exact h
  · exact ((h.note (.called l.id e)).run (respond l.body e)).2.note (.returned l.id)

lemma Echo.turns (h : Echo w v) (e : ε) (waiting : List (Listener β)) :
    Echo (waiting.foldl (World.turn respond e) w)
      (waiting.foldl (World.turn (muted respond) e) v) := by
  induction waiting generalizing w v with
  | nil => exact h
  | cons l waiting ih => exact ih (h.turn respond e l)

lemma Echo.round (h : Echo w v) (e : ε) :
    Echo (w.round respond e) (v.round (muted respond) e) := by
  have hlisteners : v.bus.listeners = w.bus.listeners := by rw [h.bus]
  have hturns := (h.note (.roundBegan e)).turns respond e w.bus.listeners
  unfold World.round
  simp only [World.bus_note, hlisteners]
  exact hturns.note_bus _ (congrArg Bus.settle hturns.bus)

/-- Nothing happened from the one world to the other but in a round. -/
structure Within (w v : World σ ε β) : Prop where
  emitting : v.bus.emitting = w.bus.emitting
  opening : v.happenings.filterMap opening? = w.happenings.filterMap opening?

lemma Within.trans {u : World σ ε β} (h : Within w v) (h' : Within v u) : Within w u :=
  ⟨h'.emitting.trans h.emitting, h'.opening.trans h.opening⟩

lemma Within.note {bus : Bus ε β} {x : Happening ε} (hbus : bus.emitting = w.bus.emitting)
    (hx : x.opening? = none) : Within w ({ w with bus }.note x) :=
  ⟨hbus, by simp [hx]⟩

lemma Answered.within {r : Request σ ε β} (h : Answered w r v) : Within w v := by
  refine ⟨h.emitting, ?_⟩
  rcases h.journal with heq | ⟨x, heq, hx⟩
  · rw [heq]
  · rw [heq, List.filterMap_append]
    simp [opening?_of_isRequest hx]

lemma Program.run_within (q : Program σ ε β α) (w : World σ ε β) : Within w (q.run w).2 := by
  induction q generalizing w with
  | done a => exact ⟨rfl, rfl⟩
  | request r next ih => exact (World.answered w r).within.trans (ih _ _)

lemma World.turn_within (w : World σ ε β) (e : ε) (l : Listener β) :
    Within w (w.turn respond e l) := by
  unfold turn
  split
  · exact ⟨rfl, rfl⟩
  · have hcall : Within w (w.note (.called l.id e)) := .note rfl rfl
    exact (hcall.trans (Program.run_within _ _)).trans (.note rfl rfl)

lemma World.turns_within (w : World σ ε β) (e : ε) (waiting : List (Listener β)) :
    Within w (waiting.foldl (turn respond e) w) := by
  induction waiting generalizing w with
  | nil => exact ⟨rfl, rfl⟩
  | cons l waiting ih => exact (w.turn_within respond e l).trans (ih _)

lemma World.round_within (w : World σ ε β) (e : ε) :
    Within (w.note (.roundBegan e)) (w.round respond e) :=
  (World.turns_within respond _ e _).trans (.note rfl rfl)

end Round

section Drain

variable {w v w' : World σ ε β} (respond : β → ε → Program σ ε β Unit) (limit : Nat)

/-- A round that follows in an emission is an emission of its own to the muted listeners. -/
lemma Echo.emit (h : Echo w.rest v) (hemitting : w.bus.emitting = true) (e : ε) :
    ∃ v', v.emit (muted respond) limit e = .ok v' ∧ Echo (w.round respond e).rest v' := by
  have hbus : ({ v.bus with emitting := true } : Bus ε β) = { w.bus with queue := [] } := by
    rw [h.bus]
    simp [World.rest, hemitting]
  have hw : Echo w { v with bus := { w.bus with queue := [] } } := ⟨rfl, h.memory, h.happenings⟩
  -- once it is busy again, the bus at rest is the bus between two rounds, without its queue
  have hdue : Echo w (v.due e) := hw.emitted_right e hbus
  have hround := hdue.round respond e
  refine ⟨((v.due e).round (muted respond) e).rest, ?_, ?_⟩
  · have hqueue : ((v.due e).round (muted respond) e).bus.queue = [] :=
      congrArg Bus.queue hround.bus
    rw [World.emit_eq]
    unfold World.drain
    split
    next => rfl
    next heq => simp [hqueue] at heq
    next heq => simp [hqueue] at heq
  · exact ⟨congrArg (fun bus : Bus ε β => { bus with emitting := false }) hround.bus,
      hround.memory, hround.happenings⟩

lemma perform_emitAll_cons {x : World σ ε β} (e : ε) (es : List ε)
    (h : v.emit respond limit e = .ok x) :
    (Program.emitAll (e :: es)).perform respond limit v =
      (Program.emitAll es).perform respond limit x := by
  simp [Program.emitAll, Program.perform, h]

/-- The rounds of a drain are emissions, one after another, to the muted listeners. -/
lemma drain_flat (limit' : Nat) (hdrain : w.drain respond limit' = .ok w')
    (hemitting : w.bus.emitting = true) (h : Echo w.rest v) :
    ∃ es v', w'.happenings.filterMap opening? = w.happenings.filterMap opening? ++ es ∧
      (Program.emitAll es).perform (muted respond) limit v = .ok ((), v') ∧
      Echo w'.rest v' := by
  -- one round of the drain is one emission; between two of them the worlds are alike at rest
  fun_induction World.drain respond limit' w generalizing v with
  | case1 w limit' hqueue =>
      cases hdrain
      exact ⟨[], v, by simp, rfl, h⟩
  | case2 w e queue hqueue => cases hdrain
  | case3 w e queue hqueue limit' ih =>
      let next : World σ ε β := { w with bus := { w.bus with queue } }
      have hnext : Echo next.rest v := ⟨h.bus, h.memory, h.happenings⟩
      obtain ⟨x, hx, hecho⟩ := hnext.emit respond limit hemitting e
      have hwithin := next.round_within respond e
      obtain ⟨es, v', hes, hrun, hv'⟩ := ih hdrain (hwithin.emitting.trans hemitting) hecho
      refine ⟨e :: es, v', ?_, ?_, hv'⟩
      · rw [hes, hwithin.opening]
        simp [next, opening?]
      · rw [perform_emitAll_cons (muted respond) limit e es hx]
        exact hrun

end Drain

lemma World.emit_eq_ok {respond : β → ε → Program σ ε β Unit} {limit : Nat} {e : ε}
    {w w' : World σ ε β} (h : w.emit respond limit e = .ok w') :
    ∃ x, drain respond limit ((w.due e).round respond e) = .ok x ∧ x.rest = w' := by
  rw [emit_eq] at h
  cases hd : drain respond limit ((w.due e).round respond e) with
  | ok x => exact ⟨x, rfl, by simpa [hd, Except.map] using h⟩
  | error x => simp [hd, Except.map] at h

lemma InOrder.emit {respond : β → ε → Program σ ε β Unit} {limit : Nat} {e : ε}
    {w w' : World σ ε β} (hw : InOrder (.outside, w)) (h : w.emit respond limit e = .ok w') :
    InOrder (.outside, w') := by
  have hsteps := World.emit_steps respond limit e w
  rw [h] at hsteps
  exact hsteps.preserve InOrder.step (hw.step (.emit e))

/-- An emission from outside delivers its own event and then what is emitted meanwhile. -/
lemma emit_journal {respond : β → ε → Program σ ε β Unit} {limit : Nat} {e : ε}
    {w w' : World σ ε β} (hw : InOrder (.outside, w)) (h : w.emit respond limit e = .ok w') :
    ∃ more, w'.happenings = w.happenings ++ .emitted e :: more ∧
      more.filterMap opening? = e :: more.filterMap emission? := by
  have hsteps := World.emit_steps respond limit e w
  rw [h] at hsteps
  obtain ⟨more, hmore⟩ := hsteps.journal_grows
  have hjournal : w'.happenings = w.happenings ++ .emitted e :: more := by
    rw [← hmore]
    simp [World.due]
  have hdelivered := (hw.emit h).all_delivered
  have hnone : (Happening.emitted e).opening? = none := rfl
  rw [hjournal, List.filterMap_append, List.filterMap_append, hw.all_delivered] at hdelivered
  refine ⟨more, hjournal, ?_⟩
  simpa [hnone, emission?] using (List.append_cancel_left hdelivered).symm

/-- The emission is the same as the emissions, one after another, of its own event and those
that the listeners would have emitted, to the muted listeners. -/
lemma emit_flat {respond : β → ε → Program σ ε β Unit} {limit : Nat} {e : ε}
    {w w' : World σ ε β} (hw : InOrder (.outside, w)) (h : w.emit respond limit e = .ok w')
    (limit' : Nat) :
    ∃ es v, w'.happenings.filterMap opening? = w.happenings.filterMap opening? ++ e :: es ∧
      (Program.emitAll (e :: es)).perform (muted respond) limit' w = .ok ((), v) ∧
      Echo w' v := by
  obtain ⟨x, hdrain, rfl⟩ := World.emit_eq_ok h
  have hidle : w.bus.emitting = false := hw.poised.emitting
  have hqueue : w.bus.queue = [] := hw.accounted.idle rfl
  have hecho : Echo (w.due e).rest w := by
    refine ⟨?_, rfl, by simp [World.due, World.rest]⟩
    simp [World.due, World.rest, ← hidle, ← hqueue]
  obtain ⟨y, hy, hround⟩ := hecho.emit respond limit' rfl e
  have hwithin := (w.due e).round_within respond e
  obtain ⟨es, v, hes, hrun, hv⟩ := drain_flat respond limit' limit hdrain hwithin.emitting hround
  refine ⟨es, v, ?_, ?_, hv⟩
  · have hopening : x.rest.happenings = x.happenings := rfl
    rw [hopening, hes, hwithin.opening]
    simp only [World.due, World.happenings_note, World.happenings_with_bus,
      List.filterMap_append, List.append_assoc]
    rfl
  · rw [perform_emitAll_cons (muted respond) limit' e es hy]
    exact hrun

/-- In every run one thing happens after another, and each emission has a round of its own, in
the order in which the events were emitted. An emission from outside is over once its own event
and all that were emitted meanwhile were delivered. The same happens, the emissions aside, and
the bus and the memory become the same as if those events were emitted one after another from
outside and the listeners emitted nothing. -/
theorem emissions_in_turn (respond : β → ε → Program σ ε β Unit) (limit : Nat)
    (p : Program σ ε β α) (memory : σ) :
    Sequential (World.reached (p.perform respond limit { memory })).happenings ∧
      ∀ a w, p.perform respond limit { memory } = .ok (a, w) →
        w.happenings.filterMap opening? = w.happenings.filterMap emission? ∧
        ∀ limit' e w', w.emit respond limit' e = .ok w' →
          ∃ more, w'.happenings = w.happenings ++ .emitted e :: more ∧
            more.filterMap opening? = e :: more.filterMap emission? ∧
            (more.filterMap opening?).length = 1 + (more.filterMap emission?).length ∧
            ∀ limit'', ∃ v,
              (Program.emitAll (e :: more.filterMap emission?)).perform (muted respond) limit'' w =
                .ok ((), v) ∧
              v.happenings.filterMap call? = w'.happenings.filterMap call? ∧
              besidesEmissions v.happenings = besidesEmissions w'.happenings ∧
              v.bus = w'.bus ∧ v.memory = w'.memory := by
  constructor
  · obtain ⟨s, hs, hsteps⟩ := World.reached_steps respond limit p { memory }
    exact (hsteps.preserve InOrder.step (InOrder.start memory)).sequential hs
  intro a w hp
  have hw : InOrder (.outside, w) := by
    have hsteps := p.perform_steps respond limit { memory }
    rw [hp] at hsteps
    exact hsteps.preserve InOrder.step (InOrder.start memory)
  refine ⟨hw.all_delivered.symm, ?_⟩
  intro limit' e w' hemit
  obtain ⟨more, hjournal, hrounds⟩ := emit_journal hw hemit
  refine ⟨more, hjournal, hrounds, by simp [hrounds, Nat.add_comm], ?_⟩
  intro limit''
  obtain ⟨es, v, hes, hrun, hecho⟩ := emit_flat hw hemit limit''
  have hsame : es = more.filterMap emission? := by
    have hnone : (Happening.emitted e).opening? = none := rfl
    rw [hjournal, List.filterMap_append] at hes
    have heq := List.append_cancel_left hes
    rw [List.filterMap_cons_none hnone, hrounds] at heq
    exact (List.cons.inj heq).2.symm
  have hqueue : w'.bus.queue = [] := (hw.emit hemit).accounted.idle rfl
  refine ⟨v, hsame ▸ hrun, ?_, hecho.happenings, ?_, hecho.memory⟩
  · rw [← calls_besidesEmissions, hecho.happenings, calls_besidesEmissions]
  · rw [hecho.bus, ← hqueue]

/-- At every event below 2 this listener emits the next one. -/
def countUp (_ : Unit) (n : Nat) : Program Unit Nat Unit Unit :=
  if n < 2 then Program.emit (n + 1) else pure ()

/-- The one emission has three rounds, which are three emissions to the muted listener. -/
theorem three_rounds_in_turn :
    ∃ w w' more v, (Program.add ()).perform countUp 0 { memory := () } = .ok (⟨0⟩, w) ∧
      w.emit countUp 2 0 = .ok w' ∧ w'.happenings = w.happenings ++ .emitted 0 :: more ∧
      more.filterMap opening? = [0, 1, 2] ∧
      (Program.emitAll [0, 1, 2]).perform (muted countUp) 0 w = .ok ((), v) ∧
      v.happenings.filterMap call? = [(⟨0⟩, 0), (⟨0⟩, 1), (⟨0⟩, 2)] ∧ v.bus = w'.bus := by
  obtain ⟨-, hfinished⟩ := emissions_in_turn countUp 0 (Program.add ()) ()
  obtain ⟨-, hemission⟩ := hfinished _ _ rfl
  obtain ⟨more, hjournal, hrounds, -, hflat⟩ := hemission 2 0 _ rfl
  have hemitted : more.filterMap emission? = [1, 2] := by
    have hnow : [0, 1, 2] = 0 :: more.filterMap emission? :=
      congrArg (List.filterMap emission?) hjournal
    exact (List.cons.inj hnow).2.symm
  rw [hemitted] at hrounds hflat
  obtain ⟨v, hrun, hcalls, -, hbus, -⟩ := hflat 0
  exact ⟨_, _, more, v, rfl, rfl, hjournal, hrounds, hrun, hcalls, hbus⟩

end Keychord.Bus
