import Keychord.Text.Blank
import Keychord.Text.Case
import Mathlib.Data.List.Basic
import Mathlib.Tactic.SplitIfs

/-!
# The case of the letters A to Z

Changing the case of the letters `A` to `Z` in a text changes neither what is blank in it nor its
lower case. The second is not obvious: lower case of a capital sigma depends on its neighbours.
But a letter counts as cased, and is not looked through, in either of its two cases, so that it
makes the same kind of neighbour.
-/
namespace Keychord.Text

/-- The code points of the letters in either case. -/
def IsLetter (n : ℕ) : Prop := 65 ≤ n ∧ n ≤ 90 ∨ 97 ≤ n ∧ n ≤ 122

/-- Only a letter is changed, into a letter. -/
lemma asciiLower_eq_or (c : Char) :
    asciiLower c = c ∨ 65 ≤ c.toNat ∧ c.toNat ≤ 90 ∧ (asciiLower c).toNat = c.toNat + 32 := by
  have hnat := toNat_asciiLower c
  split_ifs at hnat with h
  · exact .inr ⟨h.1, h.2, hnat⟩
  · exact .inl (Char.toNat_inj.mp hnat)

@[simp] lemma asciiLower_asciiLower (c : Char) : asciiLower (asciiLower c) = asciiLower c := by
  rw [← Char.toNat_inj, toNat_asciiLower, if_neg]
  rw [toNat_asciiLower]
  split_ifs <;> omega

/-- A property that all letters have, or none of them, is not changed with their case. -/
lemma apply_asciiLower {α : Type} (f : Char → α) {a : α}
    (h : ∀ c : Char, IsLetter c.toNat → f c = a) (c : Char) : f (asciiLower c) = f c := by
  rcases asciiLower_eq_or c with heq | ⟨hlo, hhi, hnat⟩
  · rw [heq]
  · rw [h c (.inl ⟨hlo, hhi⟩), h (asciiLower c) (.inr (by omega))]

/-- No letter is in a set of which no range meets the letters. -/
lemma Ranges.has_eq_false_of_isLetter {ranges : Ranges}
    (h : ∀ r ∈ ranges, r.2 < 65 ∨ 90 < r.1 ∧ r.2 < 97 ∨ 122 < r.1) {c : Char}
    (hc : IsLetter c.toNat) : ranges.has c = false := by
  rw [← Bool.not_eq_true, Ranges.has_iff]
  rintro ⟨r, hr, hlo, hhi⟩
  have := h r hr
  unfold IsLetter at hc
  omega

lemma isBlank_asciiLower (c : Char) : isBlank (asciiLower c) = isBlank c :=
  apply_asciiLower isBlank (fun _ => Ranges.has_eq_false_of_isLetter (by decide)) c

/-- The text with its letters in lower case. -/
def fold (text : List Char) : List Char := text.map asciiLower

@[simp] lemma fold_nil : fold [] = [] := rfl

@[simp] lemma fold_cons (c : Char) (text : List Char) :
    fold (c :: text) = asciiLower c :: fold text :=
  rfl

@[simp] lemma fold_append (xs ys : List Char) : fold (xs ++ ys) = fold xs ++ fold ys :=
  List.map_append

@[simp] lemma fold_fold (text : List Char) : fold (fold text) = fold text := by
  simp [fold, Function.comp_def]

lemma fold_reverse (text : List Char) : fold text.reverse = (fold text).reverse :=
  List.map_reverse

/-- What the case of letters does not change is passed over alike. -/
lemma dropWhile_fold {p : Char → Bool} (h : ∀ c, p (asciiLower c) = p c) (text : List Char) :
    (fold text).dropWhile p = fold (text.dropWhile p) := by
  rw [fold, List.dropWhile_map]
  congr 2
  funext c
  exact h c

@[simp] lemma trim_fold (text : List Char) : trim (fold text) = fold (trim text) := by
  simp only [trim, dropWhile_fold isBlank_asciiLower, ← fold_reverse]

@[simp] lemma allBlank_fold (text : List Char) : allBlank (fold text) = allBlank text := by
  simp only [allBlank, fold, List.all_map, Function.comp_def, isBlank_asciiLower]

lemma isCased_asciiLower (c : Char) : isCased (asciiLower c) = isCased c := by
  refine apply_asciiLower isCased (a := true) (fun c hc => ?_) c
  have hranges : (65, 90) ∈ casedRanges ∧ (97, 122) ∈ casedRanges := by decide
  rw [isCased, Ranges.has_iff]
  rcases hc with hc | hc
  · exact ⟨_, hranges.1, hc⟩
  · exact ⟨_, hranges.2, hc⟩

lemma isCaseIgnorable_asciiLower (c : Char) : isCaseIgnorable (asciiLower c) = isCaseIgnorable c :=
  apply_asciiLower isCaseIgnorable
    (fun _ => Ranges.has_eq_false_of_isLetter (by decide +kernel)) c

lemma facesCased_fold (text : List Char) : facesCased (fold text) = facesCased text := by
  rw [facesCased, dropWhile_fold isCaseIgnorable_asciiLower, facesCased]
  cases text.dropWhile isCaseIgnorable with
  | nil => rfl
  | cons c rest => exact isCased_asciiLower c

lemma endsWord_fold (before after : List Char) :
    endsWord (fold before) (fold after) = endsWord before after := by
  rw [endsWord, facesCased_fold, facesCased_fold, endsWord]

/-- A capital letter is in the first run of the table, and a small one in none. -/
lemma lowerChar_asciiLower (c : Char) : lowerChar (asciiLower c) = lowerChar c := by
  rcases asciiLower_eq_or c with heq | ⟨hlo, hhi, hnat⟩
  · rw [heq]
  have hcapital : mapRuns? lowerRuns c.toNat = some (c.toNat + 32) := by
    have hrun : (⟨65, 90, 1, 97⟩ : CaseRun).map? c.toNat = some (c.toNat + 32) := by
      simp only [CaseRun.map?, hlo, hhi, decide_true, Bool.true_and, Nat.mod_one, beq_self_eq_true,
        if_true, Option.some.injEq]
      omega
    rw [mapRuns?, lowerRuns, List.findSome?_cons, hrun]
  have hsmall : mapRuns? lowerRuns (asciiLower c).toNat = none := by
    have hruns : ∀ run ∈ lowerRuns, run.last < 97 ∨ 122 < run.first := by decide +kernel
    rw [mapRuns?, List.findSome?_eq_none_iff]
    intro run hrun
    have := hruns run hrun
    rw [CaseRun.map?, if_neg]
    simp only [Bool.and_eq_true, decide_eq_true_eq, not_and]
    omega
  have hdotted : ∀ d : Char, d.toNat ≤ 122 → d ≠ 'İ' := by
    rintro d hd rfl
    contradiction
  simp only [lowerChar, if_neg (hdotted c (by omega)), if_neg (hdotted (asciiLower c) (by omega)),
    hcapital, hsmall]
  rw [← hnat, Char.ofNat_toNat]

lemma asciiLower_eq_sigma {c : Char} : asciiLower c = 'Σ' ↔ c = 'Σ' := by
  rcases asciiLower_eq_or c with heq | ⟨hlo, hhi, hnat⟩
  · rw [heq]
  · have hsigma : 'Σ'.toNat = 931 := rfl
    constructor
    · intro h
      rw [h] at hnat
      omega
    · rintro rfl
      omega

lemma lowerAfter_fold (before text : List Char) :
    lowerAfter (fold before) (fold text) = lowerAfter before text := by
  induction text generalizing before with
  | nil => rfl
  | cons c rest ih =>
      have hrest := ih (c :: before)
      rw [fold_cons] at hrest
      simp only [fold_cons, lowerAfter, asciiLower_eq_sigma, endsWord_fold, lowerChar_asciiLower,
        hrest]

@[simp] theorem lower_fold (text : List Char) : lower (fold text) = lower text :=
  lowerAfter_fold [] text

/-- The texts are the same but for the case of the letters `A` to `Z`. -/
def SameLetters (s t : String) : Prop := fold s.toList = fold t.toList

instance (s t : String) : Decidable (SameLetters s t) :=
  inferInstanceAs (Decidable (_ = _))

lemma SameLetters.lowercase_eq {s t : String} (h : SameLetters s t) :
    lowercase s = lowercase t := by
  rw [lowercase, lowercase, ← lower_fold s.toList, h, lower_fold]

end Keychord.Text
