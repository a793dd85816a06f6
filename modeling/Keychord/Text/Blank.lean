import Keychord.Text.Ranges

/-!
# Blank characters and trimming

Blank means the property White_Space: tabs, line breaks, the no-break spaces and the wide
spaces count, the zero-width ones do not. Trimming takes blanks off both ends and never
looks inside.
-/
namespace Keychord.Text

/-- The characters with the property White_Space. -/
def blankRanges : Ranges := [
  (0x9, 0xD), (0x20, 0x20), (0x85, 0x85), (0xA0, 0xA0), (0x1680, 0x1680), (0x2000, 0x200A),
  (0x2028, 0x2029), (0x202F, 0x202F), (0x205F, 0x205F), (0x3000, 0x3000)]

def isBlank (c : Char) : Bool := blankRanges.has c

/-- The text without the blanks at its two ends. -/
def trim (text : List Char) : List Char :=
  ((text.dropWhile isBlank).reverse.dropWhile isBlank).reverse

/-- Nothing but blanks, or nothing at all. -/
def allBlank (text : List Char) : Bool := text.all isBlank

@[simp] theorem trim_nil : trim [] = [] := rfl

theorem dropBlanks_eq_nil_iff (text : List Char) :
    text.dropWhile isBlank = [] ↔ allBlank text = true := by
  induction text with
  | nil => simp [allBlank]
  | cons c rest ih =>
      by_cases hc : isBlank c = true
      · rw [List.dropWhile_cons_of_pos hc, ih]
        simp [allBlank, hc]
      · simp [allBlank, hc]

theorem trim_eq_nil_iff (text : List Char) : trim text = [] ↔ allBlank text = true := by
  have htake : (text.takeWhile isBlank).all isBlank = true := List.all_takeWhile
  rw [trim, List.reverse_eq_nil_iff, dropBlanks_eq_nil_iff]
  calc allBlank (text.dropWhile isBlank).reverse = true
      ↔ (text.dropWhile isBlank).all isBlank = true := by rw [allBlank, List.all_reverse]
    _ ↔ (text.takeWhile isBlank ++ text.dropWhile isBlank).all isBlank = true := by
        rw [List.all_append, htake, Bool.true_and]
    _ ↔ allBlank text = true := by rw [List.takeWhile_append_dropWhile, allBlank]

end Keychord.Text
