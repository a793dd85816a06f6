import Keychord.Bus.Run
import Mathlib.Data.List.Induction
import Mathlib.Data.List.TakeWhile

/-!
# What a journal tells

The happenings of a run tell who was added and who was taken off, who was called with which
event, which events were emitted and for which of them a round began. Nothing here looks at
the state of the bus, so this is the side that the bus is measured by.

In a round a listener has its turn once all that were added before it have had theirs.
Listeners are numbered in the order in which they are added. What happened in a round before
the turn of a listener therefore ends where this listener or a later one is called.
-/
namespace Keychord.Bus

variable {σ ε β : Type}

namespace Happening

def joined? : Happening ε → Option ListenerId
  | added id | subscribed id => some id
  | _ => none

def left? : Happening ε → Option ListenerId
  | removed id | released id => some id
  | _ => none

def call? : Happening ε → Option (ListenerId × ε)
  | called id e => some (id, e)
  | _ => none

def emission? : Happening ε → Option ε
  | emitted e => some e
  | _ => none

def opening? : Happening ε → Option ε
  | roundBegan e => some e
  | _ => none

/-- The beginning or the end of a round. -/
def isBoundary : Happening ε → Bool
  | roundBegan _ | roundEnded _ => true
  | _ => false

/-- A request of the bus, by whoever made it. -/
def isRequest : Happening ε → Bool
  | added _ | subscribed _ | removed _ | released _ | emitted _ => true
  | _ => false

lemma joined?_eq_some_iff {h : Happening ε} {id : ListenerId} :
    h.joined? = some id ↔ h = added id ∨ h = subscribed id := by
  cases h <;> simp [joined?]

lemma left?_eq_some_iff {h : Happening ε} {id : ListenerId} :
    h.left? = some id ↔ h = removed id ∨ h = released id := by
  cases h <;> simp [left?]

lemma call?_eq_some_iff {h : Happening ε} {c : ListenerId × ε} :
    h.call? = some c ↔ h = called c.1 c.2 := by
  cases h <;> simp [call?, Prod.ext_iff]

lemma left?_of_joined {h : Happening ε} {id : ListenerId} (hj : h.joined? = some id) :
    h.left? = none := by
  obtain rfl | rfl := joined?_eq_some_iff.mp hj <;> rfl

lemma joined?_of_left {h : Happening ε} {id : ListenerId} (hl : h.left? = some id) :
    h.joined? = none := by
  obtain rfl | rfl := left?_eq_some_iff.mp hl <;> rfl

lemma request_of_joined {h : Happening ε} {id : ListenerId} (hj : h.joined? = some id) :
    h.isRequest = true ∧ h.emission? = none := by
  obtain rfl | rfl := joined?_eq_some_iff.mp hj <;> exact ⟨rfl, rfl⟩

lemma request_of_left {h : Happening ε} {id : ListenerId} (hl : h.left? = some id) :
    h.isRequest = true ∧ h.emission? = none := by
  obtain rfl | rfl := left?_eq_some_iff.mp hl <;> exact ⟨rfl, rfl⟩

/-- Requests are neither calls nor parts of the frame of a round. -/
lemma call?_of_isRequest {h : Happening ε} (hr : h.isRequest = true) : h.call? = none := by
  cases h <;> first | rfl | cases hr

lemma isBoundary_of_isRequest {h : Happening ε} (hr : h.isRequest = true) :
    h.isBoundary = false := by
  cases h <;> first | rfl | cases hr

lemma opening?_of_isRequest {h : Happening ε} (hr : h.isRequest = true) : h.opening? = none := by
  cases h <;> first | rfl | cases hr

/-- The happening's effect on the list of those who listen. -/
def register (ids : List ListenerId) : Happening ε → List ListenerId
  | added id | subscribed id => ids ++ [id]
  | removed id | released id => ids.filter (· ≠ id)
  | _ => ids

lemma register_of_joined {h : Happening ε} {id : ListenerId} (ids : List ListenerId)
    (hj : h.joined? = some id) : h.register ids = ids ++ [id] := by
  obtain rfl | rfl := joined?_eq_some_iff.mp hj <;> rfl

lemma register_of_left {h : Happening ε} {id : ListenerId} (ids : List ListenerId)
    (hl : h.left? = some id) : h.register ids = ids.filter (· ≠ id) := by
  obtain rfl | rfl := left?_eq_some_iff.mp hl <;> rfl

lemma register_of_none {h : Happening ε} (ids : List ListenerId) (hj : h.joined? = none)
    (hl : h.left? = none) : h.register ids = ids := by
  cases h <;> simp_all [register, joined?, left?]

end Happening

open Happening

@[simp] lemma World.happenings_note (h : Happening ε) (w : World σ ε β) :
    (w.note h).happenings = w.happenings ++ [h] := by
  simp [note, happenings]

@[simp] lemma World.bus_note (h : Happening ε) (w : World σ ε β) : (w.note h).bus = w.bus :=
  rfl

@[simp] lemma World.happenings_with_bus (bus : Bus ε β) (w : World σ ε β) :
    { w with bus }.happenings = w.happenings :=
  rfl

/-- A place in a history that went on is its end or a place in the history before. -/
lemma concat_eq_append_cons {hs before after : List (Happening ε)} {x y : Happening ε}
    (h : hs ++ [x] = before ++ y :: after) :
    (after = [] ∧ y = x ∧ before = hs) ∨
      ∃ after', after = after' ++ [x] ∧ hs = before ++ y :: after' := by
  rcases List.eq_nil_or_concat after with rfl | ⟨after', z, rfl⟩
  · obtain ⟨hbefore, hx⟩ := List.append_inj' h rfl
    exact .inl ⟨rfl, (List.singleton_inj.mp hx).symm, hbefore.symm⟩
  · rw [List.concat_eq_append] at h ⊢
    rw [← List.cons_append, ← List.append_assoc] at h
    obtain ⟨hbefore, hx⟩ := List.append_inj' h rfl
    exact .inr ⟨after', by rw [List.singleton_inj.mp hx], hbefore⟩

/-- The last boundary of a history is at one place only. -/
lemma last_boundary_unique {before before' body body' : List (Happening ε)}
    {x y : Happening ε} (h : before ++ x :: body = before' ++ y :: body')
    (hx : x.isBoundary = true) (hy : y.isBoundary = true)
    (hbody : ∀ z ∈ body, z.isBoundary = false) (hbody' : ∀ z ∈ body', z.isBoundary = false) :
    before = before' ∧ x = y ∧ body = body' := by
  rcases List.append_eq_append_iff.mp h with ⟨more, rfl, hmore⟩ | ⟨more, rfl, hmore⟩
  · cases more with
    | nil => simpa using hmore
    | cons z more =>
        have hz := hbody y (by simp [(List.cons.inj hmore).2])
        exact absurd hy (by simp [hz])
  · cases more with
    | nil => simpa [eq_comm] using hmore
    | cons z more =>
        have hz := hbody' x (by simp [(List.cons.inj hmore).2])
        exact absurd hx (by simp [hz])

/-- Those who were added and not taken off since, in the order in which they were added. -/
def living (hs : List (Happening ε)) : List ListenerId :=
  hs.foldl Happening.register []

@[simp] lemma living_concat (hs : List (Happening ε)) (h : Happening ε) :
    living (hs ++ [h]) = h.register (living hs) := by
  simp [living]

/-- Of those who listened, the ones that were not taken off since remain, before all that were
added since. -/
lemma living_append (xs ys : List (Happening ε)) :
    living (xs ++ ys) =
      (living xs).filter (fun id => id ∉ ys.filterMap left?) ++ living ys := by
  induction ys using List.reverseRecOn with
  | nil =>
      have hall : (living xs).filter (fun id => id ∉ [].filterMap (@left? ε)) = living xs :=
        List.filter_eq_self.mpr (by simp)
      rw [List.append_nil, hall]
      exact (List.append_nil _).symm
  | append_singleton ys h ih =>
      -- an addition comes last on both sides, a removal is filtered out of both parts
      rw [← List.append_assoc, living_concat, living_concat, ih, List.filterMap_append]
      cases hj : h.joined? with
      | some id =>
          rw [register_of_joined _ hj, register_of_joined _ hj]
          simp [left?_of_joined hj]
      | none =>
          cases hl : h.left? with
          | some id =>
              rw [register_of_left _ hl, register_of_left _ hl, List.filter_append,
                List.filter_filter]
              simp [hl, and_comm]
          | none =>
              rw [register_of_none _ hj hl, register_of_none _ hj hl]
              simp [hl]

/-- Who listens was added at some time and not taken off since. -/
lemma mem_living_iff {hs : List (Happening ε)} {id : ListenerId} :
    id ∈ living hs ↔
      ∃ before x after, hs = before ++ x :: after ∧ x.joined? = some id ∧
        id ∉ after.filterMap left? := by
  constructor
  · intro h
    induction hs using List.reverseRecOn with
    | nil => cases h
    | append_singleton hs y ih =>
        rw [living_concat] at h
        by_cases hy : y.joined? = some id
        · exact ⟨hs, y, [], rfl, hy, by simp⟩
        have hmem : id ∈ living hs ∧ y.left? ≠ some id := by
          cases y <;> simp_all [register, joined?, left?, ne_comm]
        obtain ⟨before, x, after, rfl, hx, hafter⟩ := ih hmem.1
        refine ⟨before, x, after ++ [y], by simp, hx, ?_⟩
        rw [List.filterMap_append, List.mem_append, not_or]
        exact ⟨hafter, by simpa using hmem.2⟩
  · rintro ⟨before, x, after, rfl, hx, hafter⟩
    rw [List.append_cons, living_append, living_concat, register_of_joined _ hx]
    exact List.mem_append_left _ (List.mem_filter.mpr ⟨by simp, by simpa using hafter⟩)

lemma living_sublist_joined (hs : List (Happening ε)) :
    (living hs).Sublist (hs.filterMap joined?) := by
  induction hs using List.reverseRecOn with
  | nil => exact List.Sublist.refl []
  | append_singleton hs h ih =>
      rw [living_concat, List.filterMap_append]
      cases hj : h.joined? with
      | some id =>
          rw [register_of_joined _ hj]
          simpa [hj] using ih
      | none =>
          have hnone : [h].filterMap joined? = [] := by simp [hj]
          rw [hnone, List.append_nil]
          cases hl : h.left? with
          | some id =>
              rw [register_of_left _ hl]
              exact List.filter_sublist.trans ih
          | none =>
              rw [register_of_none _ hj hl]
              exact ih

/-- What happened in a round before it was this listener's turn. -/
def beforeTurn (id : ListenerId) (body : List (Happening ε)) : List (Happening ε) :=
  body.takeWhile fun h => h.call?.all (·.1.number < id.number)

lemma beforeTurn_isPrefix {id : ListenerId} {body : List (Happening ε)} :
    beforeTurn id body <+: body := by
  exact List.takeWhile_prefix _

lemma beforeTurn_eq_self {id : ListenerId} {body : List (Happening ε)}
    (h : ∀ c ∈ body.filterMap call?, c.1.number < id.number) : beforeTurn id body = body := by
  apply List.takeWhile_eq_self_iff.mpr
  intro x hx
  rw [Option.all_eq_true]
  intro c hc
  simpa using h c (List.mem_filterMap.mpr ⟨x, hx, hc⟩)

lemma beforeTurn_append (id : ListenerId) (body more : List (Happening ε)) :
    beforeTurn id (body ++ more) =
      if (beforeTurn id body).length = body.length then body ++ beforeTurn id more
      else beforeTurn id body := by
  exact List.takeWhile_append

lemma beforeTurn_isPrefix_append (id : ListenerId) (body more : List (Happening ε)) :
    beforeTurn id body <+: beforeTurn id (body ++ more) := by
  rw [beforeTurn_append]
  split
  next heq =>
    rw [beforeTurn_isPrefix.eq_of_length heq]
    exact List.prefix_append _ _
  next => exact List.prefix_rfl

/-- Once it had its turn, or a later listener had, nothing is added to what happened before. -/
lemma beforeTurn_append_of_called {id : ListenerId} {body : List (Happening ε)}
    {c : ListenerId × ε} (hc : c ∈ body.filterMap call?) (hid : id.number ≤ c.1.number)
    (more : List (Happening ε)) : beforeTurn id (body ++ more) = beforeTurn id body := by
  obtain ⟨x, hx, hxc⟩ := List.mem_filterMap.mp hc
  have hne : (beforeTurn id body).length ≠ body.length := by
    intro heq
    have hbody : beforeTurn id body = body := beforeTurn_isPrefix.eq_of_length heq
    have hall := List.takeWhile_eq_self_iff.mp hbody x hx
    rw [hxc, Option.all_some, decide_eq_true_eq] at hall
    omega
  rw [beforeTurn_append, if_neg hne]

/-- Only who is taken off counts. -/
lemma left_beforeTurn_concat {h : Happening ε} (id : ListenerId) (body : List (Happening ε))
    (hl : h.left? = none) :
    (beforeTurn id (body ++ [h])).filterMap left? = (beforeTurn id body).filterMap left? := by
  have hmore : (beforeTurn id [h]).filterMap left? = [] := by
    have hnone : [h].filterMap left? = [] := by simp [hl]
    exact List.sublist_nil.mp (hnone ▸ beforeTurn_isPrefix.sublist.filterMap left?)
  rw [beforeTurn_append]
  split
  next heq =>
    rw [List.filterMap_append, hmore, List.append_nil, beforeTurn_isPrefix.eq_of_length heq]
  next => rfl

end Keychord.Bus
