import Keychord.Json

/-!
# Modifier keys

A set of modifier keys is four flags. Sets are joined flag by flag; they are written in the
order Ctrl, Shift, Alt, Meta, and as JSON in the order ctrl, alt, shift, meta.
-/
namespace Keychord

/-- Which modifier keys are held. -/
structure Modifiers where
  ctrl : Bool := false
  shift : Bool := false
  alt : Bool := false
  metaKey : Bool := false
  deriving DecidableEq

namespace Modifiers

def empty : Modifiers := {}
def justCtrl : Modifiers := { ctrl := true }
def justShift : Modifiers := { shift := true }
def justAlt : Modifiers := { alt := true }
def justMeta : Modifiers := { metaKey := true }

/-- The modifiers of either set. -/
def union (a b : Modifiers) : Modifiers where
  ctrl := a.ctrl || b.ctrl
  shift := a.shift || b.shift
  alt := a.alt || b.alt
  metaKey := a.metaKey || b.metaKey

instance : Union Modifiers := ⟨union⟩

theorem union_def (a b : Modifiers) : a ∪ b = a.union b := rfl

@[simp] theorem empty_union (a : Modifiers) : empty ∪ a = a := by
  cases a; simp [union_def, union, empty]

@[simp] theorem union_empty (a : Modifiers) : a ∪ empty = a := by
  cases a; simp [union_def, union, empty]

theorem union_assoc (a b c : Modifiers) : a ∪ b ∪ c = a ∪ (b ∪ c) := by
  simp [union_def, union, Bool.or_assoc]

/-- No modifier is held. -/
def isEmpty (m : Modifiers) : Bool := !(m.ctrl || m.shift || m.alt || m.metaKey)

@[simp] theorem isEmpty_iff (m : Modifiers) : m.isEmpty = true ↔ m = empty := by
  obtain ⟨_ | _, _ | _, _ | _, _ | _⟩ := m <;> decide

/-- The names of the held modifiers, in the order they are written. -/
def names (m : Modifiers) : List String :=
  (if m.ctrl then ["Ctrl"] else []) ++ (if m.shift then ["Shift"] else []) ++
    (if m.alt then ["Alt"] else []) ++ (if m.metaKey then ["Meta"] else [])

/-- The held modifiers joined by `+`. -/
def display (m : Modifiers) : String := "+".intercalate m.names

/-- The held modifiers with a `+` after each, as they stand in front of a key. -/
def leading (m : Modifiers) : String := if m.isEmpty then "" else m.display ++ "+"

def jsonFields (m : Modifiers) : List (String × Json) :=
  [("ctrl", .bool m.ctrl), ("alt", .bool m.alt), ("shift", .bool m.shift),
    ("meta", .bool m.metaKey)]

def json (m : Modifiers) : Json := .object m.jsonFields

end Modifiers
end Keychord
