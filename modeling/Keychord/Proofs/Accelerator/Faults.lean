import Keychord.Proofs.Accelerator.OnPlatform

/-!
# What is wrong with a text, and what it describes

Whether a text is malformed is a matter of its keys alone: the platform has no say in it, nor
has the event that is compared with it. The fault is the first alternative with a blank key. A
text without a fault describes one accelerator on each platform.
-/
namespace Keychord.Accelerator
open Text

/-- The first alternative without a key, in a text that is not blank. -/
def fault? (text : String) : Option InvalidAccelerator :=
  if allBlank text.toList then none
  else ((Reading.ofText text.toList).alternatives.find? (allBlank ·.key)).map fun a =>
    ⟨String.ofList (trim a.render)⟩

/-- The accelerator that a text without a fault describes on a platform. -/
def described (p : Platform) (text : String) : Accelerator :=
  let r := Reading.ofText text.toList
  if allBlank text.toList || ModifierName.missingOn p (r.first.words.filterMap ModifierName.read)
  then inert
  else ⟨ModifierName.heldOn p (r.first.words.filterMap ModifierName.read), r.alternatives.map keyOf⟩

/-- Reading a text on a platform finds its fault or else what it describes. -/
theorem read_on_eq (p : Platform) (text : String) :
    (read text).on p =
      match fault? text with
      | some fault => .error fault
      | none => .ok (described p text) := by
  rw [read_on, fault?, described]
  cases hblank : allBlank text.toList with
  | true => simp
  | false =>
      simp only [Bool.false_eq_true, if_false, Bool.false_or, ofReading_on, ModifierName.resolve_on]
      cases (Reading.ofText text.toList).alternatives.find? (allBlank ·.key) with
      | some a => rfl
      | none => simp only [Option.map_none]; split_ifs <;> rfl

theorem read_on_eq_error_iff {p : Platform} {text : String} {fault : InvalidAccelerator} :
    (read text).on p = .error fault ↔ fault? text = some fault := by
  rw [read_on_eq]
  cases fault? text <;> simp

theorem read_on_eq_ok_iff {p : Platform} {text : String} {a : Accelerator} :
    (read text).on p = .ok a ↔ fault? text = none ∧ described p text = a := by
  rw [read_on_eq]
  cases fault? text <;> simp

end Keychord.Accelerator

namespace Keychord
open Accelerator

theorem KeyEvent.triggers_on_eq (p : Platform) (e : KeyEvent) (text : String) :
    (e.triggers text).on p =
      match fault? text with
      | some fault => .error fault
      | none => .ok ((described p text).isTriggeredBy e) := by
  rw [KeyEvent.triggers, Inquiry.on_map, read_on_eq]
  cases fault? text <;> rfl

theorem KeyEvent.triggers_on_of_read {p : Platform} {text : String} {a : Accelerator}
    (h : (read text).on p = .ok a) (e : KeyEvent) :
    (e.triggers text).on p = .ok (a.isTriggeredBy e) := by
  rw [KeyEvent.triggers, Inquiry.on_map, h]
  rfl

end Keychord
