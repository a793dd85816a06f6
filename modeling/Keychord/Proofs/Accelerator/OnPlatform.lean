import Keychord.Accelerator
import Mathlib.Data.List.Basic
import Mathlib.Tactic.SplitIfs

/-!
# Accelerators on a fixed platform

Asked on a platform that does not change, a list of modifier names holds the modifiers of all
its names together, or none at all if one of the keys is missing there. An accelerator is then
read in three steps, whatever the order in which the reading asks: the first alternative with a
blank key is the error; else the names of the first alternative decide between the inert
accelerator and one with all keys.
-/
namespace Keychord

namespace ModifierName

/-- The modifiers that a list of names stands for on a platform. -/
def heldOn (p : Platform) (names : List ModifierName) : Modifiers where
  ctrl := decide (control ∈ names) || !p.isApple && decide (commandOrControl ∈ names)
  shift := decide (shift ∈ names)
  alt := decide (alt ∈ names) || p.isApple && decide (option ∈ names)
  metaKey := decide (command ∈ names) || decide (metaKey ∈ names) ||
    p.isApple && decide (commandOrControl ∈ names)

/-- One of the names is of a key that the platform does not have. -/
def missingOn (p : Platform) (names : List ModifierName) : Bool :=
  !p.isApple && decide (option ∈ names)

@[simp] lemma heldOn_nil (p : Platform) : heldOn p [] = .empty := by
  cases p <;> rfl

lemma heldOn_cons {p : Platform} {name : ModifierName} {more : Modifiers}
    (names : List ModifierName) (h : name.modifiers? p = some more) :
    heldOn p (name :: names) = more ∪ heldOn p names := by
  cases name <;> cases p <;>
    simp [modifiers?, Platform.isApple] at h <;> subst h <;>
    simp [heldOn, Modifiers.union_def, Modifiers.union, Modifiers.justCtrl, Modifiers.justShift,
      Modifiers.justAlt, Modifiers.justMeta, Platform.isApple]

lemma missingOn_cons {p : Platform} {name : ModifierName} {more : Modifiers}
    (names : List ModifierName) (h : name.modifiers? p = some more) :
    missingOn p (name :: names) = missingOn p names := by
  cases name <;> cases p <;> simp_all [modifiers?, missingOn, Platform.isApple]

lemma missingOn_cons_of_none {p : Platform} {name : ModifierName}
    (names : List ModifierName) (h : name.modifiers? p = none) :
    missingOn p (name :: names) = true := by
  cases name <;> cases p <;> simp_all [modifiers?, missingOn, Platform.isApple]

/-- One word more: it is looked up, and the platform found out on the way stays the same. -/
lemma resolveFrom_cons_on {p : Platform} {known : Option Platform} (hk : ∀ q ∈ known, q = p)
    (held : Modifiers) (word : String) (words : List String) :
    ∃ known', (∀ q ∈ known', q = p) ∧
      (resolveFrom held known (word :: words)).on p =
        match read word with
        | none => (resolveFrom held known' words).on p
        | some name =>
          match name.modifiers? p with
          | some more => (resolveFrom (held ∪ more) known' words).on p
          | none => none := by
  rw [resolveFrom]
  cases read word with
  | none => exact ⟨known, hk, rfl⟩
  | some name =>
      cases hd : name.dependsOnPlatform with
      | false =>
          refine ⟨known, hk, ?_⟩
          simp only [hd, Bool.false_eq_true, if_false,
            modifiers?_of_not_dependsOnPlatform hd p .other]
          cases name.modifiers? .other <;> rfl
      | true =>
          cases known with
          | none =>
              refine ⟨some p, by simp, ?_⟩
              simp only [hd, if_true, Inquiry.on]
              cases name.modifiers? p <;> rfl
          | some q =>
              obtain rfl := hk q rfl
              refine ⟨some q, hk, ?_⟩
              simp only [hd, if_true]
              cases name.modifiers? q <;> rfl

lemma resolveFrom_on {p : Platform} {known : Option Platform} (hk : ∀ q ∈ known, q = p)
    (held : Modifiers) (words : List String) :
    (resolveFrom held known words).on p =
      if missingOn p (words.filterMap read) then none
      else some (held ∪ heldOn p (words.filterMap read)) := by
  induction words generalizing held known with
  | nil => simp [resolveFrom, missingOn, Modifiers.union_empty]
  | cons word words ih =>
      obtain ⟨known', hk', heq⟩ := resolveFrom_cons_on hk held word words
      rw [heq]
      cases hread : read word with
      | none => rw [List.filterMap_cons_none hread]; exact ih hk' held
      | some name =>
          rw [List.filterMap_cons_some hread]
          cases hm : name.modifiers? p with
          | none => simp [hm, missingOn_cons_of_none _ hm]
          | some more =>
              simp only [hm, ih hk', missingOn_cons _ hm, heldOn_cons _ hm, Modifiers.union_assoc]

theorem resolve_on (p : Platform) (words : List String) :
    (resolve words).on p =
      if missingOn p (words.filterMap read) then none
      else some (heldOn p (words.filterMap read)) := by
  rw [resolve, resolveFrom_on (by simp), Modifiers.empty_union]

end ModifierName

namespace Accelerator
open Text

/-- The key of an alternative as it is kept. -/
def keyOf (a : Alternative) : String := String.ofList (lower (trim a.key))

lemma mapM_terminal (alternatives : List Alternative) :
    alternatives.mapM Alternative.terminal =
      match alternatives.find? (allBlank ·.key) with
      | some a => .error ⟨String.ofList (trim a.render)⟩
      | none => .ok (alternatives.map fun a => trim a.key) := by
  induction alternatives with
  | nil => rfl
  | cons a alternatives ih =>
      rw [List.mapM_cons, Alternative.terminal, ih]
      cases hblank : allBlank a.key with
      | true => simp [hblank]; rfl
      | false =>
          simp only [hblank, Bool.false_eq_true, if_false, List.find?_cons]
          cases alternatives.find? (allBlank ·.key) <;> rfl

lemma mapM_snd {γ : Type} (others : List (γ × Alternative)) :
    (others.mapM fun other => other.2.terminal) =
      (others.map Prod.snd).mapM Alternative.terminal := by
  rw [List.mapM_map]
  rfl

/-- The three steps of reading: errors first, then the modifiers, then the keys. -/
theorem ofReading_on (p : Platform) (r : Reading) :
    (ofReading r).on p =
      match r.alternatives.find? (allBlank ·.key) with
      | some a => .error ⟨String.ofList (trim a.render)⟩
      | none =>
        match (ModifierName.resolve r.first.words).on p with
        | some modifiers => .ok ⟨modifiers, r.alternatives.map keyOf⟩
        | none => .ok inert := by
  rw [ofReading, Alternative.terminal, Reading.alternatives, List.find?_cons]
  cases hblank : allBlank r.first.key with
  | true => simp
  | false =>
      simp only [Bool.false_eq_true, if_false, Inquiry.on_bind, mapM_snd, mapM_terminal]
      cases (r.others.map Prod.snd).find? (allBlank ·.key) with
      | some a => rfl
      | none =>
          cases (ModifierName.resolve r.first.words).on p with
          | none => rfl
          | some modifiers => simp [keyOf]

theorem read_on (p : Platform) (text : String) :
    (read text).on p =
      if allBlank text.toList then .ok inert else (ofReading (.ofText text.toList)).on p := by
  rw [read]
  split_ifs <;> rfl

lemma lowerAfter_ne_nil {before text : List Char} (h : text ≠ []) :
    lowerAfter before text ≠ [] := by
  have hchar : ∀ c, lowerChar c ≠ [] := by
    intro c
    unfold lowerChar
    split_ifs
    · simp
    · split <;> simp
  cases text with
  | nil => exact absurd rfl h
  | cons c rest =>
      rw [lowerAfter]
      split_ifs <;> simp [hchar]

/-- No key that is kept is empty. -/
lemma keyOf_ne_empty {a : Alternative} (h : allBlank a.key = false) : keyOf a ≠ "" := by
  intro hempty
  have hlower : lower (trim a.key) = [] := by
    simpa [keyOf] using congrArg String.toList hempty
  refine lowerAfter_ne_nil (fun htrim => ?_) hlower
  rw [trim_eq_nil_iff, h] at htrim
  contradiction

end Accelerator
end Keychord
