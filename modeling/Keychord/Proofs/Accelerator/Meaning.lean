import Keychord.Proofs.Accelerator.Labels
import Mathlib.Data.Finset.Basic
import Mathlib.Data.Finset.Dedup

/-!
# What a shortcut means

Of a well-formed text that is not blank, only two sets matter to events: the modifiers that are
named before its first key, and the keys of all its alternatives. In which order and how often they
stand there makes no difference, nor do blanks, words that name no modifier, which of its words
names a modifier, and anything that stands before a later key.
-/
namespace Keychord

namespace ModifierName

/-- What a list of names holds depends on which names are in it. -/
lemma heldOn_congr {names names' : List ModifierName} (h : ∀ name, name ∈ names ↔ name ∈ names')
    (p : Platform) : heldOn p names = heldOn p names' := by
  simp only [heldOn, h]

lemma missingOn_congr {names names' : List ModifierName}
    (h : ∀ name, name ∈ names ↔ name ∈ names') (p : Platform) :
    missingOn p names = missingOn p names' := by
  simp only [missingOn, h]

end ModifierName

namespace Accelerator
open Text

/-- The modifiers that the text names before its first key. -/
def namesIn (text : String) : Finset ModifierName :=
  ((Reading.ofText text.toList).first.words.filterMap ModifierName.read).toFinset

/-- The keys of the alternatives of the text. -/
def keysIn (text : String) : Finset String :=
  ((Reading.ofText text.toList).alternatives.map keyOf).toFinset

/-- Events tell accelerators apart by their modifiers and by which keys they have. -/
lemma isTriggeredBy_congr {a b : Accelerator} (hheld : a.modifiers = b.modifiers)
    (hkeys : ∀ key, key ∈ a.keys ↔ key ∈ b.keys) (e : KeyEvent) :
    a.isTriggeredBy e = b.isTriggeredBy e := by
  rw [Bool.eq_iff_iff, isTriggeredBy_iff, isTriggeredBy_iff, hheld]
  simp only [hkeys]

/-- Two texts with the same two sets describe accelerators that have the same modifiers and the same
keys, in some order. -/
lemma described_congr {s t : String} (hs : allBlank s.toList = false)
    (ht : allBlank t.toList = false) (hnames : namesIn s = namesIn t)
    (hkeys : keysIn s = keysIn t) (p : Platform) :
    (described p s).modifiers = (described p t).modifiers ∧
      ∀ key, key ∈ (described p s).keys ↔ key ∈ (described p t).keys := by
  have hname : ∀ name,
      name ∈ (Reading.ofText s.toList).first.words.filterMap ModifierName.read ↔
        name ∈ (Reading.ofText t.toList).first.words.filterMap ModifierName.read := by
    intro name
    rw [← List.mem_toFinset, ← List.mem_toFinset]
    exact iff_of_eq (congrArg (name ∈ ·) hnames)
  have hkey : ∀ key, key ∈ (Reading.ofText s.toList).alternatives.map keyOf ↔
      key ∈ (Reading.ofText t.toList).alternatives.map keyOf := by
    intro key
    rw [← List.mem_toFinset, ← List.mem_toFinset]
    exact iff_of_eq (congrArg (key ∈ ·) hkeys)
  rw [described, described, hs, ht, ModifierName.missingOn_congr hname,
    ModifierName.heldOn_congr hname]
  split_ifs
  · exact ⟨rfl, fun key => Iff.rfl⟩
  · exact ⟨rfl, hkey⟩

/-- Two well-formed texts that are not blank are triggered by the same events if they name the same
set of modifiers before their first keys and have the same set of keys. -/
theorem triggers_eq_of_same_sets {s t : String} (hs : allBlank s.toList = false)
    (ht : allBlank t.toList = false) {p : Platform} {a b : Accelerator}
    (hread : (read s).on p = .ok a) (hread' : (read t).on p = .ok b)
    (hnames : namesIn s = namesIn t) (hkeys : keysIn s = keysIn t) (e : KeyEvent) :
    (e.triggers s).on p = (e.triggers t).on p := by
  obtain ⟨-, rfl⟩ := read_on_eq_ok_iff.mp hread
  obtain ⟨-, rfl⟩ := read_on_eq_ok_iff.mp hread'
  obtain ⟨hheld, hsame⟩ := described_congr hs ht hnames hkeys p
  rw [KeyEvent.triggers_on_of_read hread, KeyEvent.triggers_on_of_read hread',
    isTriggeredBy_congr hheld hsame]

/-- Modifiers in another order and spelling, a word that names none, a modifier before a later key,
and the keys in another order, one of them twice. -/
theorem triggers_of_reordered_text :
    namesIn "Alt+control+A or b" = namesIn "CTRL+x+ alt+B or Cmd+a or b" ∧
      keysIn "Alt+control+A or b" = keysIn "CTRL+x+ alt+B or Cmd+a or b" ∧
      ∀ e : KeyEvent, (e.triggers "Alt+control+A or b").on .other =
        (e.triggers "CTRL+x+ alt+B or Cmd+a or b").on .other := by
  have hnames : namesIn "Alt+control+A or b" = namesIn "CTRL+x+ alt+B or Cmd+a or b" := by
    decide +kernel
  have hkeys : keysIn "Alt+control+A or b" = keysIn "CTRL+x+ alt+B or Cmd+a or b" := by
    decide +kernel
  have hread : (read "Alt+control+A or b").on .other =
      .ok ⟨{ ctrl := true, alt := true }, ["a", "b"]⟩ := by
    decide +kernel
  have hread' : (read "CTRL+x+ alt+B or Cmd+a or b").on .other =
      .ok ⟨{ ctrl := true, alt := true }, ["b", "a", "b"]⟩ := by
    decide +kernel
  refine ⟨hnames, hkeys, fun e => ?_⟩
  exact triggers_eq_of_same_sets (by decide) (by decide) hread hread' hnames hkeys e

end Accelerator
end Keychord
