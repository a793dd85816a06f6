import Keychord.Reading
import Mathlib.Data.List.Infix
import Mathlib.Tactic.SplitIfs

/-!
# Where the uncut words stand

A place of a text is sheltered if one of the uncut words stands over it. The scanner does not
look for these words everywhere: it looks for one only after it has passed the one before.
Nothing is missed, because no uncut word begins inside another, and so the number of characters
left of the current word says all there is to say about what it shelters further on.
-/
namespace Keychord.Reading
open Text

/-- One of the uncut words stands in the text over all of the `n` places from `i` on. -/
def Sheltered (text : List Char) (i n : ℕ) : Prop :=
  ∃ word ∈ compounds, ∃ start, start ≤ i ∧ i + n ≤ start + word.length ∧
    word <+: (text.drop start).map asciiLower

instance (text : List Char) (i n : ℕ) : Decidable (Sheltered text i n) :=
  inferInstanceAs (Decidable (∃ word ∈ compounds, ∃ start, start ≤ i ∧ _))

/-- The first `inside` characters of the text are the end of an uncut word. -/
def EndsCompound (inside : ℕ) (text : List Char) : Prop :=
  ∃ word ∈ compounds, ∃ passed, 0 < passed ∧ passed + inside = word.length ∧
    beginsWith (word.drop passed) text = true

/-- As `Sheltered`, in a text whose first `inside` characters end an uncut word. -/
def ShelteredFrom (inside : ℕ) (text : List Char) (i n : ℕ) : Prop :=
  i + n ≤ inside ∨ Sheltered text i n

lemma beginsWith_iff (word text : List Char) :
    beginsWith word text = true ↔ word <+: text.map asciiLower := by
  induction word generalizing text with
  | nil => simp [beginsWith]
  | cons w word ih =>
      cases text with
      | nil => simp [beginsWith]
      | cons c text =>
          simp only [beginsWith, Bool.and_eq_true, beq_iff_eq, ih, List.map_cons,
            List.cons_prefix_cons]
          rw [eq_comm]

@[simp] lemma asciiLower_eq_plus {c : Char} : asciiLower c = '+' ↔ c = '+' := by
  rw [← Char.toNat_inj, ← Char.toNat_inj, toNat_asciiLower]
  change _ = 43 ↔ c.toNat = 43
  split_ifs <;> omega

/-- No uncut word begins inside another one, not even in part. -/
lemma compounds_disjoint : ∀ word ∈ compounds, ∀ passed < word.length, 0 < passed →
    ∀ other ∈ compounds, ¬ (word.drop passed <+: other ∨ other <+: word.drop passed) := by
  decide

lemma compounds_eq_of_isPrefix : ∀ word ∈ compounds, ∀ other ∈ compounds,
    word <+: other → word = other := by
  decide

lemma compound_unique {word other text : List Char} (hw : word ∈ compounds)
    (ho : other ∈ compounds) (hword : beginsWith word text = true)
    (hother : beginsWith other text = true) : word = other := by
  rw [beginsWith_iff] at hword hother
  rcases List.prefix_or_prefix_of_prefix hword hother with h | h
  · exact compounds_eq_of_isPrefix word hw other ho h
  · exact (compounds_eq_of_isPrefix other ho word hw h).symm

lemma compoundLength?_eq_some_iff {text : List Char} {n : ℕ} :
    compoundLength? text = some n ↔
      ∃ word ∈ compounds, word.length = n ∧ beginsWith word text = true := by
  constructor
  · intro h
    obtain ⟨word, hfind, rfl⟩ := Option.map_eq_some_iff.mp h
    exact ⟨word, List.mem_of_find?_eq_some hfind, rfl, by simpa using List.find?_some hfind⟩
  · rintro ⟨word, hmem, rfl, hbegins⟩
    have hsome : (compounds.find? (beginsWith · text)).isSome = true :=
      List.find?_isSome.mpr ⟨word, hmem, hbegins⟩
    obtain ⟨other, hfind⟩ := Option.isSome_iff_exists.mp hsome
    have hother : beginsWith other text = true := by simpa using List.find?_some hfind
    have heq := compound_unique hmem (List.mem_of_find?_eq_some hfind) hbegins hother
    simp [compoundLength?, hfind, heq]

lemma compoundLength?_eq_none_iff {text : List Char} :
    compoundLength? text = none ↔ ∀ word ∈ compounds, beginsWith word text = false := by
  simp [compoundLength?]

lemma compounds_length : ∀ word ∈ compounds, 9 ≤ word.length := by decide

lemma EndsCompound.zero (text : List Char) : EndsCompound 0 text :=
  ⟨"cmdorctrl".toList, by decide, 9, by decide, rfl, rfl⟩

lemma EndsCompound.compoundLength?_eq_none {inside : ℕ} {text : List Char}
    (h : EndsCompound (inside + 1) text) : compoundLength? text = none := by
  obtain ⟨word, hword, passed, hpos, hlen, hends⟩ := h
  rw [compoundLength?_eq_none_iff]
  intro other hother
  by_contra hbegins
  rw [Bool.not_eq_false, beginsWith_iff] at hbegins
  rw [beginsWith_iff] at hends
  have hmeet := List.prefix_or_prefix_of_prefix hends hbegins
  exact compounds_disjoint word hword passed (by omega) hpos other hother hmeet

lemma EndsCompound.tail {inside : ℕ} {c : Char} {rest : List Char}
    (h : EndsCompound (inside + 1) (c :: rest)) : EndsCompound inside rest := by
  obtain ⟨word, hword, passed, hpos, hlen, hends⟩ := h
  refine ⟨word, hword, passed + 1, by omega, by omega, ?_⟩
  rw [List.drop_eq_getElem_cons (by omega), beginsWith, Bool.and_eq_true] at hends
  exact hends.2

lemma EndsCompound.of_compoundLength? {n : ℕ} {c : Char} {rest : List Char}
    (h : compoundLength? (c :: rest) = some n) : EndsCompound (n - 1) rest := by
  obtain ⟨word, hword, rfl, hbegins⟩ := compoundLength?_eq_some_iff.mp h
  have hlen := compounds_length word hword
  refine ⟨word, hword, 1, by omega, by omega, ?_⟩
  rw [← List.drop_zero (l := word), List.drop_eq_getElem_cons (by omega), beginsWith,
    Bool.and_eq_true] at hbegins
  exact hbegins.2

lemma sheltered_zero {text : List Char} {n : ℕ} :
    Sheltered text 0 n ↔ ∃ m, compoundLength? text = some m ∧ n ≤ m := by
  constructor
  · rintro ⟨word, hword, start, hstart, hn, hstands⟩
    obtain rfl : start = 0 := by omega
    have hbegins := (beginsWith_iff word text).mpr hstands
    exact ⟨word.length, compoundLength?_eq_some_iff.mpr ⟨word, hword, rfl, hbegins⟩, by omega⟩
  · rintro ⟨m, hm, hn⟩
    obtain ⟨word, hword, rfl, hbegins⟩ := compoundLength?_eq_some_iff.mp hm
    exact ⟨word, hword, 0, le_rfl, by omega, (beginsWith_iff word text).mp hbegins⟩

/-- A place after the first is sheltered by a word at the beginning or by a later one. -/
lemma sheltered_cons_succ {c : Char} {rest : List Char} {i n : ℕ} :
    Sheltered (c :: rest) (i + 1) n ↔
      (∃ m, compoundLength? (c :: rest) = some m ∧ i + 1 + n ≤ m) ∨ Sheltered rest i n := by
  constructor
  · rintro ⟨word, hword, start, hstart, hn, hstands⟩
    cases start with
    | zero =>
        have hbegins := (beginsWith_iff word (c :: rest)).mpr hstands
        refine .inl ⟨word.length, compoundLength?_eq_some_iff.mpr ⟨word, hword, rfl, hbegins⟩, ?_⟩
        omega
    | succ start => exact .inr ⟨word, hword, start, by omega, by omega, hstands⟩
  · rintro (⟨m, hm, hn⟩ | ⟨word, hword, start, hstart, hn, hstands⟩)
    · obtain ⟨word, hword, rfl, hbegins⟩ := compoundLength?_eq_some_iff.mp hm
      exact ⟨word, hword, 0, by omega, by omega, (beginsWith_iff word _).mp hbegins⟩
    · exact ⟨word, hword, start + 1, by omega, by omega, hstands⟩

lemma shelteredFrom_zero {text : List Char} {i n : ℕ} (hn : 0 < n) :
    ShelteredFrom 0 text i n ↔ Sheltered text i n := by
  unfold ShelteredFrom
  constructor
  · rintro (h | h)
    · omega
    · exact h
  · exact .inr

lemma shelteredFrom_inside {inside : ℕ} {c : Char} {rest : List Char} {i n : ℕ}
    (h : EndsCompound (inside + 1) (c :: rest)) :
    ShelteredFrom (inside + 1) (c :: rest) (i + 1) n ↔ ShelteredFrom inside rest i n := by
  rw [ShelteredFrom, ShelteredFrom, sheltered_cons_succ, h.compoundLength?_eq_none]
  simp only [reduceCtorEq, false_and, exists_false, false_or]
  rw [show i + 1 + n ≤ inside + 1 ↔ i + n ≤ inside by omega]

lemma sheltered_compound {m : ℕ} {c : Char} {rest : List Char} {i n : ℕ}
    (h : compoundLength? (c :: rest) = some m) :
    Sheltered (c :: rest) (i + 1) n ↔ ShelteredFrom (m - 1) rest i n := by
  obtain ⟨word, hword, hlen, -⟩ := compoundLength?_eq_some_iff.mp h
  have hm : 9 ≤ m := hlen ▸ compounds_length word hword
  rw [sheltered_cons_succ, ShelteredFrom, h]
  simp only [Option.some.injEq, exists_eq_left']
  rw [show i + 1 + n ≤ m ↔ i + n ≤ m - 1 by omega]

lemma sheltered_plain {c : Char} {rest : List Char} {i n : ℕ}
    (h : compoundLength? (c :: rest) = none) :
    Sheltered (c :: rest) (i + 1) n ↔ Sheltered rest i n := by
  rw [sheltered_cons_succ, h]
  simp

end Keychord.Reading
