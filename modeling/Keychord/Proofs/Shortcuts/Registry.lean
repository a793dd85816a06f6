import Keychord.Shortcuts
import Mathlib.Data.List.Induction
import Mathlib.Data.List.Nodup

/-!
# What a registry holds

To register a pattern that is present changes its action and nothing else; any other pattern is
added at the end. So no pattern stands in a registry twice, if none did before. This is what makes
registering and unregistering fit: the one changes the first entry with its pattern only, the other
takes all such entries out.
-/
namespace Keychord.Shortcuts

variable {κ : Type}

lemma map_pattern_place (shortcut : Shortcut κ) (entries : List (Shortcut κ)) :
    (place shortcut entries).map Shortcut.pattern =
      if shortcut.pattern ∈ entries.map Shortcut.pattern then entries.map Shortcut.pattern
      else entries.map Shortcut.pattern ++ [shortcut.pattern] := by
  induction entries with
  | nil => rfl
  | cons entry entries ih =>
      by_cases heq : entry.pattern = shortcut.pattern
      · simp [place, heq]
      · have hmem : shortcut.pattern ∈ (entry :: entries).map Shortcut.pattern ↔
            shortcut.pattern ∈ entries.map Shortcut.pattern := by
          rw [List.map_cons, List.mem_cons, or_iff_right (Ne.symm heq)]
        rw [if_congr hmem rfl rfl, place, if_neg heq, List.map_cons, ih]
        split_ifs <;> rfl

theorem patterns_register (pattern : String) (action : κ) (s : Shortcuts κ) :
    (s.register pattern action).patterns =
      if pattern ∈ s.patterns then s.patterns else s.patterns ++ [pattern] :=
  map_pattern_place ⟨pattern, action⟩ s.entries

theorem patterns_unregister (pattern : String) (s : Shortcuts κ) :
    (s.unregister pattern).2.patterns = s.patterns.filter (· ≠ pattern) := by
  simp only [patterns, unregister, List.filter_map]
  rfl

/-- No pattern stands in the registry twice. -/
def Distinct (s : Shortcuts κ) : Prop := s.patterns.Nodup

lemma distinct_empty : (empty : Shortcuts κ).Distinct := List.nodup_nil

lemma Distinct.register {s : Shortcuts κ} (h : s.Distinct) (pattern : String) (action : κ) :
    (s.register pattern action).Distinct := by
  rw [Distinct, patterns_register]
  split_ifs with hmem
  · exact h
  · rw [← List.concat_eq_append]
    exact List.Nodup.concat hmem h

lemma Distinct.unregister {s : Shortcuts κ} (h : s.Distinct) (pattern : String) :
    (s.unregister pattern).2.Distinct := by
  rw [Distinct, patterns_unregister]
  exact List.Nodup.filter _ h

/-- If the pattern is there once, its entry is exchanged where it stands. -/
lemma mem_place {shortcut entry : Shortcut κ} {entries : List (Shortcut κ)}
    (h : (entries.map Shortcut.pattern).Nodup) :
    entry ∈ place shortcut entries ↔
      entry = shortcut ∨ entry ∈ entries ∧ entry.pattern ≠ shortcut.pattern := by
  induction entries with
  | nil => simp [place]
  | cons first entries ih =>
      rw [List.map_cons, List.nodup_cons] at h
      rw [place]
      split_ifs with heq
      · have hothers : ∀ other ∈ entries, other.pattern ≠ shortcut.pattern := by
          intro other hother hpattern
          exact h.1 (heq ▸ hpattern ▸ List.mem_map_of_mem hother)
        rw [List.mem_cons, List.mem_cons]
        refine or_congr_right ⟨fun hmem => ⟨.inr hmem, hothers _ hmem⟩, ?_⟩
        rintro ⟨rfl | hmem, hne⟩
        · exact absurd heq hne
        · exact hmem
      · rw [List.mem_cons, List.mem_cons, ih h.2]
        constructor
        · rintro (rfl | rfl | hmem)
          · exact .inr ⟨.inl rfl, heq⟩
          · exact .inl rfl
          · exact .inr ⟨.inr hmem.1, hmem.2⟩
        · rintro (rfl | ⟨rfl | hmem, hne⟩)
          · exact .inr (.inl rfl)
          · exact .inl rfl
          · exact .inr (.inr ⟨hmem, hne⟩)

/-- A registered pattern has its new action; the other entries stay as they are. -/
theorem Distinct.mem_register {s : Shortcuts κ} (h : s.Distinct) {pattern : String} {action : κ}
    {entry : Shortcut κ} :
    entry ∈ (s.register pattern action).entries ↔
      entry = ⟨pattern, action⟩ ∨ entry ∈ s.entries ∧ entry.pattern ≠ pattern :=
  mem_place h

theorem mem_unregister {s : Shortcuts κ} {pattern : String} {entry : Shortcut κ} :
    entry ∈ (s.unregister pattern).2.entries ↔ entry ∈ s.entries ∧ entry.pattern ≠ pattern := by
  simp [unregister]

/-- The registry into which these shortcuts have been registered in turn. -/
def registerAll (shortcuts : List (Shortcut κ)) : Shortcuts κ :=
  shortcuts.foldl (fun s shortcut => s.register shortcut.pattern shortcut.action) empty

/-- What is repeated is dropped from behind, so that inductions on the history add one more at the
end. -/
lemma eraseDups_concat {α : Type} [DecidableEq α] (xs : List α) (x : α) :
    (xs ++ [x]).eraseDups = if x ∈ xs then xs.eraseDups else xs.eraseDups ++ [x] := by
  rw [List.eraseDups_append]
  split_ifs with hmem <;> simp [List.removeAll, hmem, List.eraseDups_cons]

lemma filter_eraseDups {α : Type} [DecidableEq α] (q : α → Bool) (xs : List α) :
    xs.eraseDups.filter q = (xs.filter q).eraseDups := by
  induction xs using List.reverseRecOn with
  | nil => rfl
  | append_singleton xs x ih =>
      rw [eraseDups_concat, List.filter_append, List.filter_singleton]
      cases hx : q x with
      | false => split_ifs <;> simp [ih, hx]
      | true =>
          have hmem : x ∈ xs.filter q ↔ x ∈ xs := by simp [hx]
          rw [cond_true, eraseDups_concat, if_congr hmem rfl rfl]
          split_ifs <;> simp [ih, hx]

/-- The patterns stand in the order in which they were registered first. -/
theorem patterns_registerAll (shortcuts : List (Shortcut κ)) :
    (registerAll shortcuts).patterns = (shortcuts.map Shortcut.pattern).eraseDups := by
  induction shortcuts using List.reverseRecOn with
  | nil => rfl
  | append_singleton shortcuts shortcut ih =>
      rw [registerAll, List.foldl_append, List.foldl_cons, List.foldl_nil, ← registerAll,
        patterns_register, ih, List.map_append, List.map_singleton, eraseDups_concat]
      simp only [List.mem_eraseDups]

end Keychord.Shortcuts
