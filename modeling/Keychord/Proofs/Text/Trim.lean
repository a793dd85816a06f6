import Keychord.Text.Blank
import Mathlib.Data.List.Basic
import Mathlib.Tactic.SplitIfs

/-!
# Texts without blanks at their ends

Trimming takes off the blanks at both ends and no more: what is left has none there, and a text
that has none there is left as it is.
-/
namespace Keychord.Text

/-- No blank stands at either end. -/
structure Trimmed (text : List Char) : Prop where
  leading : ∀ c ∈ text.head?, isBlank c = false
  trailing : ∀ c ∈ text.getLast?, isBlank c = false

lemma trim_eq_self {text : List Char} (h : Trimmed text) : trim text = text := by
  have hlead : text.dropWhile isBlank = text := by
    cases text with
    | nil => rfl
    | cons c rest => exact List.dropWhile_cons_of_neg (by simpa using h.leading c)
  have htrail : text.reverse.dropWhile isBlank = text.reverse := by
    have hhead := h.trailing
    rw [← List.head?_reverse] at hhead
    cases hrev : text.reverse with
    | nil => rfl
    | cons c rest => exact List.dropWhile_cons_of_neg (by simpa [hrev] using hhead)
  rw [trim, hlead, htrail, List.reverse_reverse]

lemma forall_mem_takeWhile (text : List Char) :
    ∀ c ∈ text.takeWhile isBlank, isBlank c = true :=
  List.all_eq_true.mp List.all_takeWhile

/-- Trimming takes blanks off the two ends. -/
lemma exists_eq_append_trim (text : List Char) :
    ∃ before after, text = before ++ trim text ++ after ∧ (∀ c ∈ before, isBlank c = true) ∧
      ∀ c ∈ after, isBlank c = true := by
  refine ⟨text.takeWhile isBlank,
    ((text.dropWhile isBlank).reverse.takeWhile isBlank).reverse, ?_, forall_mem_takeWhile text, ?_⟩
  · rw [List.append_assoc, trim, ← List.reverse_append, List.takeWhile_append_dropWhile,
      List.reverse_reverse, List.takeWhile_append_dropWhile]
  · intro c hc
    exact forall_mem_takeWhile _ c (List.mem_reverse.mp hc)

lemma isBlank_of_mem_head?_dropWhile {text : List Char} {c : Char}
    (h : c ∈ (text.dropWhile isBlank).head?) : isBlank c = false := by
  have hhead := List.head?_dropWhile_not isBlank text
  rw [Option.mem_def.mp h] at hhead
  simpa using hhead

theorem trimmed_trim (text : List Char) : Trimmed (trim text) where
  leading c hc := by
    set back := (text.dropWhile isBlank).reverse with hback
    rw [trim, List.head?_reverse] at hc
    have hlast : back.getLast? = some c := by
      rw [← List.takeWhile_append_dropWhile (p := isBlank) (l := back), List.getLast?_append,
        Option.mem_def.mp hc]
      rfl
    rw [hback, List.getLast?_reverse] at hlast
    exact isBlank_of_mem_head?_dropWhile hlast
  trailing c hc := by
    rw [trim, List.getLast?_reverse] at hc
    exact isBlank_of_mem_head?_dropWhile hc

@[simp] lemma trim_trim (text : List Char) : trim (trim text) = trim text :=
  trim_eq_self (trimmed_trim text)

@[simp] lemma allBlank_trim (text : List Char) : allBlank (trim text) = allBlank text := by
  rw [Bool.eq_iff_iff, ← trim_eq_nil_iff, trim_trim, trim_eq_nil_iff]

lemma trim_cons_of_isBlank {c : Char} (hc : isBlank c = true) (text : List Char) :
    trim (c :: text) = trim text := by
  rw [trim, List.dropWhile_cons_of_pos hc, trim]

lemma trim_append_of_isBlank {c : Char} (hc : isBlank c = true) (text : List Char) :
    trim (text ++ [c]) = trim text := by
  rw [trim, trim, List.dropWhile_append]
  split_ifs with hempty
  · rw [List.isEmpty_iff.mp hempty, List.dropWhile_cons_of_pos hc]
    rfl
  · rw [List.reverse_append, List.reverse_singleton, List.singleton_append,
      List.dropWhile_cons_of_pos hc]

end Keychord.Text
