import Keychord.Proofs.Accelerator.Labels

/-!
# Canonical labels

A label is canonical if it is in lower case and none of those that are given another name. The form
in which shortcuts name a label is canonical, and a label that is canonical already has this form,
so that bringing a label into it twice is bringing it once. No accelerator tells a label from its
canonical form, whatever its keys are.
-/
namespace Keychord
open Text

namespace KeyEvent

/-- The label is in lower case, and it is neither the space nor one of the long names of the arrow
keys. -/
structure Canonical (label : String) : Prop where
  lower : lowercase label = label
  kept : label ∉ [" ", "arrowup", "arrowdown", "arrowleft", "arrowright"]

theorem canonical_normalizeLabel (label : String) : Canonical (normalizeLabel label) where
  lower := lowercase_normalizeLabel label
  kept := normalizeLabel_not_mem_renamedLabels label

lemma normalizeLabel_eq_self_iff {label : String} :
    normalizeLabel label = label ↔ Canonical label := by
  constructor
  · intro h
    exact h ▸ canonical_normalizeLabel label
  · intro h
    exact normalizeLabel_eq_self h.lower h.kept

lemma lowercase_eq_empty_iff {label : String} : lowercase label = "" ↔ label = "" := by
  constructor
  · intro h
    have himages := images_lower label.toList
    rw [← toList_lowercase, h] at himages
    exact String.toList_eq_nil_iff.mp himages.eq_nil
  · rintro rfl
    rfl

/-- No label but the empty one gets an empty name. -/
lemma normalizeLabel_eq_empty_iff {label : String} : normalizeLabel label = "" ↔ label = "" := by
  have hnames : ∀ renamed ∈ renamedLabels, renamed.1 ≠ "" ∧ renamed.2 ≠ "" := by decide
  refine Iff.trans ?_ lowercase_eq_empty_iff
  rcases normalizeLabel_cases label with ⟨name, hmem, heq⟩ | ⟨-, heq⟩
  · obtain ⟨hlabel, hname⟩ := hnames _ hmem
    rw [heq]
    exact ⟨fun h => absurd h hname, fun h => absurd h hlabel⟩
  · rw [heq]

end KeyEvent

namespace Accelerator
open KeyEvent

/-- An event counts only by the form of its label in which shortcuts name it. -/
lemma isTriggeredBy_congr_label (a : Accelerator) {label label' : String} (modifiers : Modifiers)
    (h : normalizeLabel label = normalizeLabel label') :
    a.isTriggeredBy ⟨label, modifiers⟩ = a.isTriggeredBy ⟨label', modifiers⟩ := by
  rw [isTriggeredBy, isTriggeredBy, h]

end Accelerator

namespace KeyEvent

/-- Labels are projected onto the canonical ones: what they are brought to is canonical, and what is
canonical stays. Only the empty label becomes empty. An event with the canonical label triggers the
same accelerators as the event itself, among all that there are. -/
theorem label_projected_onto_canonical (label : String) :
    normalizeLabel (normalizeLabel label) = normalizeLabel label ∧
    Canonical (normalizeLabel label) ∧
    (Canonical label ↔ normalizeLabel label = label) ∧
    (normalizeLabel label = "" ↔ label = "") ∧
    ∀ (a : Accelerator) (modifiers : Modifiers),
      a.isTriggeredBy ⟨normalizeLabel label, modifiers⟩ = a.isTriggeredBy ⟨label, modifiers⟩ := by
  have htwice : normalizeLabel (normalizeLabel label) = normalizeLabel label :=
    normalizeLabel_eq_self_iff.mpr (canonical_normalizeLabel label)
  exact ⟨htwice, canonical_normalizeLabel label, normalizeLabel_eq_self_iff.symm,
    normalizeLabel_eq_empty_iff, fun a modifiers => a.isTriggeredBy_congr_label modifiers htwice⟩

/-- A sigma at the end of a word becomes a final one, and stays one. -/
example : normalizeLabel "ΟΔΟΣ" = "οδος" ∧ normalizeLabel "οδος" = "οδος" := by decide +kernel

end KeyEvent
end Keychord
