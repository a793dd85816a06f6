import Keychord.Proofs.Bus.Ledger

/-!
# A round in progress

While a round is going on, the calls made so far are those that it owes to the listeners who
had their turn. A listener is owed a call unless it was taken off in this round before its
turn. Whatever happens later in the round does not change what was owed: it happens after the
call of a listener that comes later or is the same.

Removals may have been waiting already when the round began, if listeners own subscriptions. Those
listeners are passed over, and are owed nothing, as they no longer listen.
-/
namespace Keychord.Bus

variable {σ ε β : Type} {owning : Prop}

open Happening

/-- The calls that a round in which this happens owes to the listeners. -/
def owed (e : ε) (ids : List ListenerId) (body : List (Happening ε)) :
    List (ListenerId × ε) :=
  (ids.filter fun id => id ∉ (beforeTurn id body).filterMap left?).map (·, e)

lemma owed_concat_of_not_left {x : Happening ε} (e : ε) (ids : List ListenerId)
    (body : List (Happening ε)) (hx : x.left? = none) :
    owed e ids (body ++ [x]) = owed e ids body := by
  unfold owed
  congr 1
  apply List.filter_congr
  intro id _
  rw [left_beforeTurn_concat id body hx]

lemma owed_append_of_called {e : ε} {ids : List ListenerId} {body : List (Happening ε)}
    {c : ListenerId × ε} (hc : c ∈ body.filterMap call?)
    (hids : ∀ id ∈ ids, id.number ≤ c.1.number) (more : List (Happening ε)) :
    owed e ids (body ++ more) = owed e ids body := by
  unfold owed
  congr 1
  apply List.filter_congr
  intro id hid
  rw [beforeTurn_append_of_called hc (hids id hid)]

/-- When the calls are those that are owed, nothing that happens later changes what is owed. -/
lemma owed_append_of_eq {e : ε} {ids : List ListenerId} {body : List (Happening ε)}
    (h : body.filterMap call? = owed e ids body) (more : List (Happening ε)) :
    owed e ids (body ++ more) = owed e ids body := by
  unfold owed
  congr 1
  refine List.filter_congr fun id hid => ?_
  by_cases hleft : id ∈ (beforeTurn id body).filterMap left?
  · have hlater : id ∈ (beforeTurn id (body ++ more)).filterMap left? :=
      ((beforeTurn_isPrefix_append id body more).sublist.filterMap left?).subset hleft
    simp only [hleft, hlater]
  · have hcall : (id, e) ∈ body.filterMap call? := by
      rw [h]
      exact List.mem_map_of_mem (List.mem_filter.mpr ⟨hid, by simpa using hleft⟩)
    rw [beforeTurn_append_of_called hcall le_rfl]

/-- What is owed to a listener whose turn has just come. -/
lemma owed_concat_listener {e : ε} {id : ListenerId} {ids : List ListenerId}
    {body : List (Happening ε)} (h : ∀ c ∈ body.filterMap call?, c.1.number < id.number) :
    owed e (ids ++ [id]) body =
      owed e ids body ++ if id ∈ body.filterMap left? then [] else [(id, e)] := by
  unfold owed
  rw [List.filter_append, List.map_append]
  congr 1
  by_cases hl : id ∈ body.filterMap left?
  · rw [if_pos hl, List.filter_cons_of_neg (by rw [beforeTurn_eq_self h]; simpa using hl)]
    rfl
  · rw [if_neg hl, List.filter_cons_of_pos (by rw [beforeTurn_eq_self h]; simpa using hl)]
    rfl

lemma mem_of_mem_owed {e : ε} {ids : List ListenerId} {body : List (Happening ε)}
    {c : ListenerId × ε} (h : c ∈ owed e ids body) : c.1 ∈ ids := by
  obtain ⟨id, hid, rfl⟩ := List.mem_map.mp h
  exact (List.mem_filter.mp hid).1

lemma mem_owed_iff {e : ε} {id : ListenerId} {ids : List ListenerId}
    {body : List (Happening ε)} :
    (id, e) ∈ owed e ids body ↔
      id ∈ ids ∧ id ∉ (beforeTurn id body).filterMap left? := by
  simp [owed]

/-- A round in which some listeners had their turn and the others wait for it. The removals that
waited when it began are `late`. -/
structure RoundSoFar (e : ε) (late : List ListenerId) (past waiting : List (Listener β))
    (before body : List (Happening ε)) (w : World σ ε β) : Prop where
  journal : w.happenings = before ++ .roundBegan e :: body
  within : ∀ x ∈ body, x.isBoundary = false
  listeners : w.bus.listeners = past ++ waiting
  roster : (w.bus.listeners.map Listener.id).filter (fun id => id ∉ late) = living before
  noted : w.bus.removals = late ++ body.filterMap left?
  called : body.filterMap call? =
    owed e ((past.map Listener.id).filter fun id => id ∉ late) body

section SoFar

variable {e : ε} {late : List ListenerId} {past waiting : List (Listener β)}
  {before body : List (Happening ε)} {w : World σ ε β}

/-- What happens in a round and changes neither the listeners nor the removals. -/
lemma RoundSoFar.note (h : RoundSoFar e late past waiting before body w) {bus : Bus ε β}
    {x : Happening ε} (hlisteners : bus.listeners = w.bus.listeners)
    (hremovals : bus.removals = w.bus.removals) (hb : x.isBoundary = false)
    (hl : x.left? = none) (hc : x.call? = none) :
    RoundSoFar e late past waiting before (body ++ [x]) ({ w with bus }.note x) where
  journal := by simp [h.journal]
  within := by simpa [or_imp, forall_and, hb] using h.within
  listeners := hlisteners.trans h.listeners
  roster := by
    rw [World.bus_note, hlisteners]
    exact h.roster
  noted := by simpa [hl] using hremovals.trans h.noted
  called := by
    rw [owed_concat_of_not_left _ _ _ hl, ← h.called]
    simp [hc]

/-- A removal that is asked for during a call. -/
lemma RoundSoFar.note_left (h : RoundSoFar e late past waiting before body w) {bus : Bus ε β}
    {x : Happening ε} {id : ListenerId} (hlisteners : bus.listeners = w.bus.listeners)
    (hremovals : bus.removals = w.bus.removals ++ [id]) (hl : x.left? = some id)
    {c : ListenerId × ε} (hc : c ∈ body.filterMap call?)
    (hlast : ∀ l ∈ past, l.id.number ≤ c.1.number) :
    RoundSoFar e late past waiting before (body ++ [x]) ({ w with bus }.note x) where
  journal := by simp [h.journal]
  within := by
    have hb := isBoundary_of_isRequest (request_of_left hl).1
    simpa [or_imp, forall_and, hb] using h.within
  listeners := hlisteners.trans h.listeners
  roster := by
    rw [World.bus_note, hlisteners]
    exact h.roster
  noted := by simpa [hl, h.noted] using hremovals
  called := by
    have hx := call?_of_isRequest (request_of_left hl).1
    have hpast : ∀ id ∈ (past.map Listener.id).filter (fun id => id ∉ late),
        id.number ≤ c.1.number := by
      intro id hid
      obtain ⟨l, hmem, rfl⟩ := List.mem_map.mp (List.mem_filter.mp hid).1
      exact hlast l hmem
    rw [owed_append_of_called hc hpast, ← h.called]
    simp [hx]

end SoFar

section Turn

variable {e : ε} {late : List ListenerId} {l : Listener β} {past waiting : List (Listener β)}
  {before body : List (Happening ε)} {w : World σ ε β}

/-- Nobody was called so far who comes after the listener whose turn it is. -/
lemma RoundSoFar.called_before (h : RoundSoFar e late past (l :: waiting) before body w)
    (hsorted : (w.bus.listeners.map Listener.id).Pairwise (·.number < ·.number)) :
    ∀ c ∈ body.filterMap call?, c.1.number < l.id.number := by
  intro c hc
  rw [h.called] at hc
  rw [h.listeners, List.map_append, List.pairwise_append] at hsorted
  exact hsorted.2.2 c.1 (List.mem_filter.mp (mem_of_mem_owed hc)).1 l.id (by simp)

lemma RoundSoFar.skip (h : RoundSoFar e late past (l :: waiting) before body w)
    (hsorted : (w.bus.listeners.map Listener.id).Pairwise (·.number < ·.number))
    (hl : l.id ∈ w.bus.removals) :
    RoundSoFar e late (past ++ [l]) waiting before body w where
  journal := h.journal
  within := h.within
  listeners := by simp [h.listeners]
  roster := h.roster
  noted := h.noted
  called := by
    rw [h.noted, List.mem_append] at hl
    rw [List.map_append, List.map_singleton, List.filter_append]
    -- it was passed over from the beginning, or has been taken off in this round
    by_cases hlate : l.id ∈ late
    · rw [List.filter_cons_of_neg (by simpa using hlate), List.filter_nil, List.append_nil]
      exact h.called
    · rw [List.filter_cons_of_pos (by simpa using hlate), List.filter_nil,
        owed_concat_listener (h.called_before hsorted), if_pos (hl.resolve_left hlate),
        List.append_nil]
      exact h.called

lemma RoundSoFar.call (h : RoundSoFar e late past (l :: waiting) before body w)
    (hsorted : (w.bus.listeners.map Listener.id).Pairwise (·.number < ·.number))
    (hl : l.id ∉ w.bus.removals) :
    RoundSoFar e late (past ++ [l]) waiting before (body ++ [.called l.id e])
      (w.note (.called l.id e)) where
  journal := by simp [h.journal]
  within := by simpa [or_imp, forall_and, isBoundary] using h.within
  listeners := by simpa [World.note] using h.listeners
  roster := h.roster
  noted := by
    have hl' : (Happening.called l.id e).left? = none := rfl
    simpa [hl'] using h.noted
  called := by
    rw [h.noted, List.mem_append, not_or] at hl
    rw [owed_concat_of_not_left _ _ _ rfl, List.map_append, List.map_singleton,
      List.filter_append, List.filter_cons_of_pos (by simpa using hl.1), List.filter_nil,
      owed_concat_listener (h.called_before hsorted), if_neg hl.2, ← h.called]
    simp [call?]

/-- The listener that is being called makes a request. -/
lemma RoundSoFar.answered {w' : World σ ε β} {r : Request σ ε β}
    (h : RoundSoFar e late (past ++ [l]) waiting before body w)
    (hcall : (l.id, e) ∈ body.filterMap call?)
    (hsorted : (w.bus.listeners.map Listener.id).Pairwise (·.number < ·.number))
    (hemitting : w.bus.emitting = true) (ha : Answered w r w') :
    ∃ body', RoundSoFar e late (past ++ [l]) waiting before body' w' ∧
      (l.id, e) ∈ body'.filterMap call? := by
  have hkeep : ∀ x, (l.id, e) ∈ (body ++ [x]).filterMap call? := by
    intro x
    rw [List.filterMap_append]
    exact List.mem_append_left _ hcall
  cases ha with
  | quiet memory => exact ⟨body, ⟨h.1, h.2, h.3, h.4, h.5, h.6⟩, hcall⟩
  | joined body' x hj =>
      have hx := (request_of_joined hj).1
      exact ⟨_, h.note (by simp [add, hemitting]) (by simp [add, hemitting])
        (isBoundary_of_isRequest hx) (left?_of_joined hj) (call?_of_isRequest hx), hkeep x⟩
  | left id x hl =>
      -- the caller is the last of those who had their turn, so nobody's turn is still to come
      have hlast : ∀ k ∈ past ++ [l], k.id.number ≤ l.id.number := by
        rw [h.listeners, List.map_append, List.map_append, List.append_assoc,
          List.pairwise_append] at hsorted
        intro k hk
        rcases List.mem_append.mp hk with hk | hk
        · exact (hsorted.2.2 k.id (List.mem_map_of_mem hk) l.id (by simp)).le
        · exact (congrArg (·.id.number) (List.mem_singleton.mp hk)).le
      exact ⟨_, h.note_left (by simp [remove, hemitting]) (by simp [remove, hemitting]) hl
        hcall hlast, hkeep x⟩
  | emitted e' => exact ⟨_, h.note rfl rfl rfl rfl rfl, hkeep _⟩

end Turn

/-- A round in which all listeners have had their turn. -/
structure RoundOver (e : ε) (before body : List (Happening ε)) (w : World σ ε β) : Prop where
  journal : w.happenings = before ++ .roundBegan e :: body
  within : ∀ x ∈ body, x.isBoundary = false
  called : body.filterMap call? = owed e (living before) body

/-- Those who were taken off leave. -/
lemma RoundSoFar.retire {e : ε} {late : List ListenerId} {past : List (Listener β)}
    {before body : List (Happening ε)} {w : World σ ε β}
    (h : RoundSoFar e late past [] before body w) (bus : Bus ε β) :
    RoundOver e before body { w with bus } where
  journal := h.journal
  within := h.within
  called := by rw [h.called, ← h.roster, h.listeners, List.append_nil]

/-- One of them releases a subscription. Its owner has had its turn, too. -/
lemma RoundOver.note_left {e : ε} {before body : List (Happening ε)} {w : World σ ε β}
    (h : RoundOver e before body w) (bus : Bus ε β) {x : Happening ε} {id : ListenerId}
    (hl : x.left? = some id) :
    RoundOver e before (body ++ [x]) ({ w with bus }.note x) where
  journal := by simp [h.journal]
  within := by
    have hb := isBoundary_of_isRequest (request_of_left hl).1
    simpa [or_imp, forall_and, hb] using h.within
  called := by
    have hx := call?_of_isRequest (request_of_left hl).1
    rw [owed_append_of_eq h.called, ← h.called]
    simp [hx]

/-- The round that is in progress at this stage, if there is one. -/
def InRound : Stage ε β → World σ ε β → Prop
  | .turns e waiting, w => ∃ late past before body, RoundSoFar e late past waiting before body w
  | .inside e l waiting, w =>
      ∃ late past before body, RoundSoFar e late (past ++ [l]) waiting before body w ∧
        (l.id, e) ∈ body.filterMap call?
  | .leaving e, w => ∃ before body, RoundOver e before body w
  | _, _ => True

/-- Every listener that has not been taken off when a round begins is part of it. -/
lemma RoundSoFar.begin {w : World σ ε β} (hr : Registered w) (hadditions : w.bus.additions = [])
    (e : ε) :
    RoundSoFar e w.bus.removals [] w.bus.listeners w.happenings [] (w.note (.roundBegan e)) where
  journal := World.happenings_note _ _
  within := nofun
  listeners := rfl
  roster := by
    have hpresent := hr.present
    rwa [present_eq, hadditions, List.map_nil, List.append_nil] at hpresent
  noted := (List.append_nil _).symm
  called := rfl

lemma InRound.step {s t : Stage ε β × World σ ε β} (hstep : Step owning s t)
    (hp : Poised owning s.1 s.2) (hr : Registered s.2) (h : InRound s.1 s.2) :
    InRound t.1 t.2 := by
  have hsorted := hr.listeners_sorted
  cases hstep with
  | start e => exact ⟨_, [], _, [], .begin hr (hp.additions rfl) e⟩
  | skip hl =>
      obtain ⟨late, past, before, body, h⟩ := h
      exact ⟨late, _, before, body, h.skip hsorted hl⟩
  | call hl =>
      obtain ⟨late, past, before, body, h⟩ := h
      exact ⟨late, past, before, _, h.call hsorted hl, by simp [call?]⟩
  | request r =>
      obtain ⟨late, past, before, body, h, hcall⟩ := h
      obtain ⟨body', h', hcall'⟩ := h.answered hcall hsorted hp.emitting (World.answered _ r)
      exact ⟨late, past, before, body', h', hcall'⟩
  | «return» =>
      obtain ⟨late, past, before, body, h, -⟩ := h
      exact ⟨late, _, before, _, h.note rfl rfl rfl rfl rfl⟩
  | retire =>
      obtain ⟨late, past, before, body, h⟩ := h
      exact ⟨before, body, h.retire _⟩
  | letGo ho hid =>
      obtain ⟨before, body, h⟩ := h
      exact ⟨before, _, h.note_left _ rfl⟩
  | answer r hr => trivial
  | emit e => trivial
  | join => trivial
  | next hq => trivial
  | finish hq => trivial

end Keychord.Bus
