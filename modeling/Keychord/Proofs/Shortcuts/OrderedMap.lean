import Keychord.Proofs.Shortcuts.Registry
import Mathlib.Data.List.Sort
import Mathlib.Data.Set.Card

/-!
# A registry as an ordered map

What a registry holds is determined by the history of registering and unregistering. A pattern is
present from a registration on until it is unregistered. It has its place by the registration with
which this began, whatever it is registered for in between, and its action by the latest one.

The history says so without a registry. The registry that the changes lead to, one after another, is
the only one of which all this is true.
-/
namespace Keychord.Shortcuts

variable {κ : Type}

/-- A change of what is registered. -/
inductive Change (κ : Type) where
  | register (pattern : String) (action : κ)
  | unregister (pattern : String)

/-- The registry after a change. Whether a pattern was there to be unregistered is left aside. -/
def Change.applyTo (s : Shortcuts κ) : Change κ → Shortcuts κ
  | register pattern action => s.register pattern action
  | unregister pattern => (s.unregister pattern).2

/-- The registry after these changes. In the beginning it is empty. -/
def changed (history : List (Change κ)) : Shortcuts κ := history.foldl Change.applyTo empty

lemma changed_concat (history : List (Change κ)) (change : Change κ) :
    changed (history ++ [change]) = change.applyTo (changed history) := by
  rw [changed, List.foldl_append]
  rfl

/-- The pattern has been registered and not been unregistered since. -/
def Present (history : List (Change κ)) (pattern : String) : Prop :=
  ∃ action before after, history = before ++ .register pattern action :: after ∧
    .unregister pattern ∉ after

/-- The pattern is present and became so by the change at this place. -/
def EnteredAt (history : List (Change κ)) (pattern : String) (place : ℕ) : Prop :=
  ∃ action before after, history = before ++ .register pattern action :: after ∧
    before.length = place ∧ ¬ Present before pattern ∧ .unregister pattern ∉ after

/-- The pattern was registered for this action, and has not been registered since. -/
def LatestAction (history : List (Change κ)) (pattern : String) (action : κ) : Prop :=
  ∃ before after, history = before ++ .register pattern action :: after ∧
    ∀ other, .register pattern other ∉ after

/-- Both are present, and the one became so before the other. -/
def EnteredBefore (history : List (Change κ)) (pattern other : String) : Prop :=
  ∃ place later, EnteredAt history pattern place ∧ EnteredAt history other later ∧ place < later

section Concat

variable {history : List (Change κ)} {change : Change κ} {pattern : String}

/-- In a history that went on, a registration is the last change or stands in the history before. -/
lemma exists_registration_concat {action : κ} {q : List (Change κ) → List (Change κ) → Prop} :
    (∃ before after,
        history ++ [change] = before ++ .register pattern action :: after ∧ q before after) ↔
      change = .register pattern action ∧ q history [] ∨
      ∃ before after,
        history = before ++ .register pattern action :: after ∧ q before (after ++ [change]) := by
  constructor
  · rintro ⟨before, after, heq, hq⟩
    rcases List.eq_nil_or_concat after with rfl | ⟨since, last, rfl⟩
    · obtain ⟨rfl, hlast⟩ := List.append_inj' heq rfl
      exact .inl ⟨List.singleton_inj.mp hlast, hq⟩
    · rw [List.concat_eq_append] at heq hq
      rw [← List.cons_append, ← List.append_assoc] at heq
      obtain ⟨rfl, hlast⟩ := List.append_inj' heq rfl
      exact .inr ⟨before, since, rfl, List.singleton_inj.mp hlast ▸ hq⟩
  · rintro (⟨rfl, hq⟩ | ⟨before, after, rfl, hq⟩)
    · exact ⟨history, [], rfl, hq⟩
    · exact ⟨before, after ++ [change], by simp, hq⟩

lemma present_concat :
    Present (history ++ [change]) pattern ↔
      (∃ action, change = .register pattern action) ∨
      Present history pattern ∧ change ≠ .unregister pattern := by
  simp only [Present, exists_registration_concat, exists_or, List.not_mem_nil, not_false_iff,
    and_true, List.mem_append, List.mem_singleton, not_or]
  simp only [← and_assoc, exists_and_right, ne_eq, eq_comm]

lemma enteredAt_concat {place : ℕ} :
    EnteredAt (history ++ [change]) pattern place ↔
      (∃ action, change = .register pattern action) ∧ history.length = place ∧
        ¬ Present history pattern ∨
      EnteredAt history pattern place ∧ change ≠ .unregister pattern := by
  simp only [EnteredAt, exists_registration_concat, exists_or, List.not_mem_nil, not_false_iff,
    and_true, List.mem_append, List.mem_singleton, not_or]
  simp only [← and_assoc, exists_and_right, ne_eq, eq_comm]

lemma latestAction_concat {action : κ} :
    LatestAction (history ++ [change]) pattern action ↔
      change = .register pattern action ∨
      LatestAction history pattern action ∧ ∀ other, change ≠ .register pattern other := by
  simp only [LatestAction, exists_registration_concat, List.not_mem_nil, not_false_iff,
    implies_true, and_true, List.mem_append, List.mem_singleton, not_or, forall_and]
  simp only [← and_assoc, exists_and_right, ne_eq, eq_comm]

end Concat

section Places

variable {history : List (Change κ)} {pattern other : String} {place later : ℕ}

/-- Whatever is present has a place. -/
lemma exists_enteredAt_iff : (∃ place, EnteredAt history pattern place) ↔
    Present history pattern := by
  constructor
  · rintro ⟨_, action, before, after, heq, -, -, hafter⟩
    exact ⟨action, before, after, heq, hafter⟩
  intro h
  induction history using List.reverseRecOn with
  | nil =>
      obtain ⟨action, before, after, heq, -⟩ := h
      simp at heq
  | append_singleton history change ih =>
      by_cases hpresent : Present history pattern
      · obtain ⟨place, hplace⟩ := ih hpresent
        refine ⟨place, enteredAt_concat.mpr (.inr ⟨hplace, ?_⟩)⟩
        rcases present_concat.mp h with ⟨action, rfl⟩ | ⟨-, hkept⟩
        · simp
        · exact hkept
      · have hnew := (present_concat.mp h).resolve_right fun hold => hpresent hold.1
        exact ⟨_, enteredAt_concat.mpr (.inl ⟨hnew, rfl, hpresent⟩)⟩

lemma EnteredAt.lt_length (h : EnteredAt history pattern place) : place < history.length := by
  obtain ⟨action, before, after, rfl, rfl, -⟩ := h
  simp

/-- A pattern has one place only. -/
lemma EnteredAt.unique (h : EnteredAt history pattern place)
    (h' : EnteredAt history pattern later) : place = later := by
  induction history using List.reverseRecOn with
  | nil => exact absurd h.lt_length (Nat.not_lt_zero _)
  | append_singleton history change ih =>
      rcases enteredAt_concat.mp h with ⟨-, rfl, habsent⟩ | ⟨hold, -⟩
      · rcases enteredAt_concat.mp h' with ⟨-, rfl, -⟩ | ⟨hold', -⟩
        · rfl
        · exact absurd (exists_enteredAt_iff.mp ⟨_, hold'⟩) habsent
      · rcases enteredAt_concat.mp h' with ⟨-, -, habsent⟩ | ⟨hold', -⟩
        · exact absurd (exists_enteredAt_iff.mp ⟨_, hold⟩) habsent
        · exact ih hold hold'

lemma EnteredBefore.asymm (h : EnteredBefore history pattern other) :
    ¬ EnteredBefore history other pattern := by
  rintro ⟨n, m, hn, hm, hlt'⟩
  obtain ⟨m', n', hm', hn', hlt⟩ := h
  rw [hn.unique hn', hm.unique hm'] at hlt'
  exact Nat.lt_asymm hlt hlt'

lemma LatestAction.unique {action action' : κ} (h : LatestAction history pattern action)
    (h' : LatestAction history pattern action') : action = action' := by
  induction history using List.reverseRecOn with
  | nil =>
      obtain ⟨before, after, heq, -⟩ := h
      simp at heq
  | append_singleton history change ih =>
      rcases latestAction_concat.mp h with rfl | ⟨hold, hne⟩
      · rcases latestAction_concat.mp h' with heq | ⟨-, hne⟩
        · simpa using heq
        · exact absurd rfl (hne action)
      · rcases latestAction_concat.mp h' with rfl | ⟨hold', -⟩
        · exact absurd rfl (hne action')
        · exact ih hold hold'

end Places

/-- The registry is the ordered map that the history describes. -/
structure IsOrderedMap (history : List (Change κ)) (s : Shortcuts κ) : Prop where
  distinct : s.Distinct
  present : ∀ pattern, pattern ∈ s.patterns ↔ Present history pattern
  ordered : s.patterns.Pairwise (EnteredBefore history)
  latest : ∀ entry ∈ s.entries, LatestAction history entry.pattern entry.action

section Step

variable {history : List (Change κ)} {s s' : Shortcuts κ}

/-- What is present when one change more has been made keeps its place if it was present before. -/
lemma EnteredBefore.concat {pattern other : String} {change : Change κ}
    (h : EnteredBefore history pattern other) (hpattern : change ≠ .unregister pattern)
    (hother : change ≠ .unregister other) :
    EnteredBefore (history ++ [change]) pattern other := by
  obtain ⟨place, later, hplace, hlater, hlt⟩ := h
  exact ⟨place, later, enteredAt_concat.mpr (.inr ⟨hplace, hpattern⟩),
    enteredAt_concat.mpr (.inr ⟨hlater, hother⟩), hlt⟩

lemma IsOrderedMap.register (h : IsOrderedMap history s) (pattern : String) (action : κ) :
    IsOrderedMap (history ++ [.register pattern action]) (s.register pattern action) where
  distinct := h.distinct.register pattern action
  present := by
    intro other
    have hmem : other ∈ (s.register pattern action).patterns ↔
        pattern = other ∨ other ∈ s.patterns := by
      rw [patterns_register]
      split_ifs with hpattern
      · exact (or_iff_right_of_imp fun heq => heq ▸ hpattern).symm
      · rw [List.mem_append, List.mem_singleton, or_comm, eq_comm]
    rw [hmem, present_concat, h.present]
    simp
  ordered := by
    have hold : s.patterns.Pairwise (EnteredBefore (history ++ [.register pattern action])) :=
      h.ordered.imp fun hbefore => hbefore.concat (by simp) (by simp)
    rw [patterns_register]
    split_ifs with hpattern
    · exact hold
    · rw [List.pairwise_append]
      refine ⟨hold, List.pairwise_singleton _ _, fun other hother new hnew => ?_⟩
      obtain rfl := List.mem_singleton.mp hnew
      -- the new pattern comes in with the last change, after everything that was present before
      obtain ⟨place, hplace⟩ := exists_enteredAt_iff.mpr ((h.present other).mp hother)
      refine ⟨place, history.length, ?_, ?_, hplace.lt_length⟩
      · exact enteredAt_concat.mpr (.inr ⟨hplace, by simp⟩)
      · exact enteredAt_concat.mpr
          (.inl ⟨⟨action, rfl⟩, rfl, fun hpresent => hpattern ((h.present _).mpr hpresent)⟩)
  latest := by
    intro entry hentry
    rcases h.distinct.mem_register.mp hentry with rfl | ⟨hold, hother⟩
    · exact latestAction_concat.mpr (.inl rfl)
    · refine latestAction_concat.mpr (.inr ⟨h.latest entry hold, fun other heq => ?_⟩)
      exact hother (Change.register.inj heq).1.symm

lemma IsOrderedMap.unregister (h : IsOrderedMap history s) (pattern : String) :
    IsOrderedMap (history ++ [.unregister pattern]) (s.unregister pattern).2 where
  distinct := h.distinct.unregister pattern
  present := by
    intro other
    rw [patterns_unregister, List.mem_filter, decide_eq_true_iff, present_concat, h.present]
    simp [eq_comm]
  ordered := by
    rw [patterns_unregister]
    have hkept : ∀ {other}, other ∈ s.patterns.filter (· ≠ pattern) →
        (.unregister pattern : Change κ) ≠ .unregister other := by
      rintro other hother ⟨⟩
      simp at hother
    exact (h.ordered.filter _).imp_of_mem fun hone hother hbefore =>
      hbefore.concat (hkept hone) (hkept hother)
  latest := by
    intro entry hentry
    exact latestAction_concat.mpr (.inr ⟨h.latest entry (mem_unregister.mp hentry).1, by simp⟩)

lemma isOrderedMap_changed (history : List (Change κ)) : IsOrderedMap history (changed history) := by
  induction history using List.reverseRecOn with
  | nil =>
      refine ⟨distinct_empty, fun pattern => ⟨nofun, ?_⟩, .nil, nofun⟩
      rintro ⟨action, before, after, heq, -⟩
      simp at heq
  | append_singleton history change ih =>
      rw [changed_concat]
      cases change with
      | register pattern action => exact ih.register pattern action
      | unregister pattern => exact ih.unregister pattern

/-- The history leaves nothing open. -/
lemma IsOrderedMap.unique (h : IsOrderedMap history s) (h' : IsOrderedMap history s') : s = s' := by
  have : Std.Irrefl (EnteredBefore history) := ⟨fun _ hself => hself.asymm hself⟩
  have : Std.Antisymm (EnteredBefore history) :=
    ⟨fun _ _ hbefore hafter => absurd hafter hbefore.asymm⟩
  have hpatterns : s.patterns = s'.patterns :=
    h.ordered.eq_of_mem_iff h'.ordered fun pattern => by rw [h.present, h'.present]
  have hlength : s.entries.length = s'.entries.length := by
    simpa [patterns] using congrArg List.length hpatterns
  obtain ⟨entries⟩ := s
  obtain ⟨entries'⟩ := s'
  refine congrArg Shortcuts.mk (List.ext_getElem hlength fun n hn hn' => ?_)
  have hpattern : entries[n].pattern = entries'[n].pattern := by
    simpa [patterns] using List.getElem_of_eq hpatterns (by simpa [patterns] using hn)
  have haction : entries[n].action = entries'[n].action := by
    have hlatest := h.latest _ (List.getElem_mem hn)
    rw [hpattern] at hlatest
    exact hlatest.unique (h'.latest _ (List.getElem_mem hn'))
  exact (Shortcut.mk.injEq ..).mpr ⟨hpattern, haction⟩

end Step

lemma unregister_eq_true_iff {s : Shortcuts κ} {pattern : String} :
    (s.unregister pattern).1 = true ↔ pattern ∈ s.patterns := by
  have hall : (s.entries.filter (·.pattern ≠ pattern)).length = s.entries.length ↔
      pattern ∉ s.patterns := by
    rw [List.length_filter_eq_length_iff]
    simp [patterns]
  rw [unregister, decide_eq_true_iff, ne_eq, hall, not_not]

lemma IsOrderedMap.size_eq {history : List (Change κ)} {s : Shortcuts κ}
    (h : IsOrderedMap history s) : s.size = {pattern | Present history pattern}.ncard := by
  have hset : {pattern | Present history pattern} = (s.patterns.toFinset : Set String) := by
    ext pattern
    simp [h.present]
  rw [hset, Set.ncard_coe_finset, List.toFinset_card_of_nodup h.distinct, patterns,
    List.length_map, size]

/-- A registry is the ordered map of its history: the changes, made one after another, lead to it
and to no other. It has as many entries as patterns are present. To register a pattern that is
present leaves every pattern in its place, but if it is unregistered first, it comes to the end. To
unregister a pattern tells whether it was present; it goes, and the others stay in their order. -/
theorem registry_is_ordered_map (history : List (Change κ)) :
    (∀ s, IsOrderedMap history s ↔ s = changed history) ∧
    (changed history).size = {pattern | Present history pattern}.ncard ∧
    ((changed history).isEmpty = true ↔ ∀ pattern, ¬ Present history pattern) ∧
    (∀ pattern action, Present history pattern →
      (changed (history ++ [.register pattern action])).patterns = (changed history).patterns ∧
      (changed (history ++ [.unregister pattern, .register pattern action])).patterns =
        (changed history).patterns.filter (· ≠ pattern) ++ [pattern]) ∧
    ∀ pattern,
      (((changed history).unregister pattern).1 = true ↔ Present history pattern) ∧
      ((changed history).unregister pattern).2.entries.Sublist (changed history).entries ∧
      ∀ entry, entry ∈ ((changed history).unregister pattern).2.entries ↔
        entry ∈ (changed history).entries ∧ entry.pattern ≠ pattern := by
  have hmap := isOrderedMap_changed history
  refine ⟨fun s => ⟨fun h => h.unique hmap, fun h => h ▸ hmap⟩, hmap.size_eq, ?_, ?_, ?_⟩
  · simp only [← hmap.present, isEmpty, List.isEmpty_iff, patterns, ← List.eq_nil_iff_forall_not_mem,
      List.map_eq_nil_iff]
  · intro pattern action hpresent
    have hmem := (hmap.present pattern).mpr hpresent
    constructor
    · rw [changed_concat, Change.applyTo, patterns_register, if_pos hmem]
    · rw [List.append_cons, changed_concat, changed_concat, Change.applyTo, Change.applyTo,
        patterns_register, patterns_unregister, if_neg (by simp)]
  · intro pattern
    exact ⟨unregister_eq_true_iff.trans (hmap.present pattern), List.filter_sublist,
      fun entry => mem_unregister⟩

/-- A pattern that is registered again keeps its place. One that was unregistered comes to the
end. -/
example :
    (changed [.register "Tab" 0, .register "F1" 1, .register "Tab" 2, .unregister "F1",
      .register "F2" 3, .register "F1" 4]).entries = [⟨"Tab", 2⟩, ⟨"F2", 3⟩, ⟨"F1", 4⟩] := by
  rfl

end Keychord.Shortcuts
