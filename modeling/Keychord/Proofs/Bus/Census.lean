import Keychord.Bus
import Mathlib.Data.List.Nodup
import Mathlib.Data.Nat.Basic
import Mathlib.Order.Basic

/-!
# Who is present

Of the listeners that have joined a bus some may be left out, as if they had never joined. A census
keeps the numbers of those that are present. In the run that is left the listeners are numbered
anew, in the same order: the number that one gets there is its place in the census.

As a run goes on, its census only grows. Whoever has been counted as present or as left out once is
so for the rest of the run.
-/
namespace Keychord.Bus

/-- The second list has a counterpart of every element of the first that is not left out. -/
inductive Thinned {α γ : Type} (out : α → Prop) (same : α → γ → Prop) : List α → List γ → Prop
  | nil : Thinned out same [] []
  | skip {a : α} {as : List α} {cs : List γ} (head : out a) (tail : Thinned out same as cs) :
      Thinned out same (a :: as) cs
  | keep {a : α} {c : γ} {as : List α} {cs : List γ} (head : same a c)
      (tail : Thinned out same as cs) : Thinned out same (a :: as) (c :: cs)

namespace Thinned

variable {α γ : Type} {out : α → Prop} {same : α → γ → Prop} {as : List α} {cs : List γ}

lemma mono {out' : α → Prop} {same' : α → γ → Prop} (hout : ∀ a, out a → out' a)
    (hsame : ∀ a c, same a c → same' a c) (h : Thinned out same as cs) :
    Thinned out' same' as cs := by
  induction h with
  | nil => exact .nil
  | skip head _ ih => exact .skip (hout _ head) ih
  | keep head _ ih => exact .keep (hsame _ _ head) ih

lemma append {as' : List α} {cs' : List γ} (h : Thinned out same as cs)
    (h' : Thinned out same as' cs') : Thinned out same (as ++ as') (cs ++ cs') := by
  induction h with
  | nil => exact h'
  | skip head _ ih => exact .skip head ih
  | keep head _ ih => exact .keep head ih

/-- Counterparts may be filtered by any conditions on which they agree. -/
lemma filter {p : α → Bool} {q : γ → Bool} (hpq : ∀ a c, same a c → p a = q c)
    (h : Thinned out same as cs) : Thinned out same (as.filter p) (cs.filter q) := by
  induction h with
  | nil => exact .nil
  | @skip a as cs head _ ih =>
      cases hp : p a with
      | true => rw [List.filter_cons_of_pos hp]; exact .skip head ih
      | false => rwa [List.filter_cons_of_neg (by simp [hp])]
  | @keep a c as cs head _ ih =>
      have hq := hpq a c head
      cases hp : p a with
      | true =>
          rw [List.filter_cons_of_pos hp, List.filter_cons_of_pos (hq.symm.trans hp)]
          exact .keep head ih
      | false =>
          rw [List.filter_cons_of_neg (by simp [hp]),
            List.filter_cons_of_neg (by simp [← hq, hp])]
          exact ih

/-- Only a counterpart of the one is the other. -/
lemma mem_iff {a : α} {c : γ} (hout : ¬ out a) (hsame : ∀ a' c', same a' c' → (a' = a ↔ c' = c))
    (h : Thinned out same as cs) : a ∈ as ↔ c ∈ cs := by
  induction h with
  | nil => simp
  | @skip a' as cs head _ ih =>
      have hne : a ≠ a' := by
        rintro rfl
        exact hout head
      simp [hne, ih]
  | @keep a' c' as cs head _ ih =>
      rw [List.mem_cons, List.mem_cons, ih, eq_comm, hsame a' c' head, eq_comm]

end Thinned

/-- How many members there have been, and the numbers of those that are not absent. -/
structure Census where
  made : ℕ
  present : List ℕ
  increasing : present.Pairwise (· < ·)
  below : ∀ n ∈ present, n < made

namespace Census

variable {c c' d : Census} {id id' : ListenerId}

def start : Census := ⟨0, [], .nil, nofun⟩

/-- One member more, that is present. -/
def enroll (c : Census) : Census where
  made := c.made + 1
  present := c.present ++ [c.made]
  increasing := by
    rw [List.pairwise_append]
    exact ⟨c.increasing, List.pairwise_singleton _ _, by simpa using c.below⟩
  below n hn := by
    rcases List.mem_append.mp hn with hn | hn
    · exact Nat.lt_succ_of_lt (c.below n hn)
    · rw [List.mem_singleton.mp hn]
      exact Nat.lt_succ_self _

/-- One member more, that is absent. -/
def pass (c : Census) : Census where
  made := c.made + 1
  present := c.present
  increasing := c.increasing
  below n hn := Nat.lt_succ_of_lt (c.below n hn)

/-- The member with this number is absent. -/
def Strange (c : Census) (n : ℕ) : Prop := n < c.made ∧ n ∉ c.present

/-- The first listener is known by the second number where some are absent. -/
def Same (c : Census) (id id' : ListenerId) : Prop := c.present[id'.number]? = some id.number

/-- The later census counts whom the earlier one counts, and perhaps members made since. -/
structure Extends (c c' : Census) : Prop where
  made : c.made ≤ c'.made
  more : ∃ more, c'.present = c.present ++ more ∧ ∀ n ∈ more, c.made ≤ n

lemma Extends.refl (c : Census) : c.Extends c := ⟨le_rfl, [], by simp, by simp⟩

lemma Extends.trans (h : c.Extends c') (h' : c'.Extends d) : c.Extends d := by
  obtain ⟨more, hmore, hnew⟩ := h.more
  obtain ⟨more', hmore', hnew'⟩ := h'.more
  refine ⟨h.made.trans h'.made, more ++ more', by rw [hmore', hmore, List.append_assoc], ?_⟩
  intro n hn
  rcases List.mem_append.mp hn with hn | hn
  · exact hnew n hn
  · exact h.made.trans (hnew' n hn)

lemma extends_enroll (c : Census) : c.Extends c.enroll :=
  ⟨Nat.le_succ _, [c.made], rfl, by simp⟩

lemma extends_pass (c : Census) : c.Extends c.pass :=
  ⟨Nat.le_succ _, [], (List.append_nil _).symm, by simp⟩

lemma Strange.extend {n : ℕ} (h : c.Strange n) (hc : c.Extends c') : c'.Strange n := by
  obtain ⟨more, hmore, hnew⟩ := hc.more
  refine ⟨h.1.trans_le hc.made, fun hn => ?_⟩
  rw [hmore, List.mem_append] at hn
  rcases hn with hn | hn
  · exact h.2 hn
  · exact absurd (hnew n hn) (not_le.mpr h.1)

lemma Same.extend (h : c.Same id id') (hc : c.Extends c') : c'.Same id id' := by
  obtain ⟨more, hmore, -⟩ := hc.more
  have hlt : id'.number < c.present.length := (List.getElem?_eq_some_iff.mp h).1
  rw [Same, hmore, List.getElem?_append_left hlt]
  exact h

lemma Same.not_strange (h : c.Same id id') : ¬ c.Strange id.number :=
  fun hstrange => hstrange.2 (List.mem_of_getElem? h)

lemma nodup (c : Census) : c.present.Nodup := c.increasing.imp ne_of_lt

/-- Counterparts go together one by one. -/
lemma Same.eq_iff {other other' : ListenerId} (h : c.Same id id') (ho : c.Same other other') :
    other = id ↔ other' = id' := by
  obtain ⟨n⟩ := id; obtain ⟨n'⟩ := id'; obtain ⟨m⟩ := other; obtain ⟨m'⟩ := other'
  simp only [Same, ListenerId.mk.injEq] at *
  constructor
  · rintro rfl
    exact (List.getElem?_inj (List.getElem?_eq_some_iff.mp ho).1 c.nodup).mp (ho.trans h.symm)
  · rintro rfl
    exact Option.some.inj (ho.symm.trans h)

lemma same_enroll (c : Census) : c.enroll.Same ⟨c.made⟩ ⟨c.present.length⟩ := by
  simp [Same, enroll]

lemma strange_pass (c : Census) : c.pass.Strange c.made :=
  ⟨Nat.lt_succ_self _, fun h => absurd (c.below _ h) (Nat.lt_irrefl _)⟩

end Census

end Keychord.Bus
