import Keychord.Proofs.Reading.Scan

/-!
# Segments without marks

A segment is whole if nothing in it is a mark: it has no `+`, and each `or` in it is sheltered.
This is a property of the segment alone. What the scanner makes of a whole segment also depends
on what follows it, because an uncut word may begin in the segment and end behind it; a seam
where that cannot happen lets the scanner pass through the segment and go on after it as if it
began there.
-/
namespace Keychord.Reading
open Text

/-- Nothing in the segment is a mark, if its first `inside` characters end an uncut word. -/
def WholeFrom (inside : ℕ) (s : List Char) : Prop :=
  '+' ∉ s ∧ ∀ i, beginsWith "or".toList (s.drop i) = true → ShelteredFrom inside s i 2

/-- Nothing in the segment is a mark. -/
def Whole (s : List Char) : Prop :=
  '+' ∉ s ∧ ∀ i < s.length, "or".toList <+: (s.drop i).map asciiLower → Sheltered s i 2

instance (s : List Char) : Decidable (Whole s) := inferInstanceAs (Decidable (_ ∧ _))

lemma wholeFrom_zero {s : List Char} : WholeFrom 0 s ↔ Whole s := by
  unfold WholeFrom Whole
  simp only [shelteredFrom_zero (by decide : 0 < 2), beginsWith_iff]
  refine and_congr_right fun _ => ⟨fun h i _ => h i, fun h i hor => h i ?_ hor⟩
  by_contra hi
  rw [List.drop_eq_nil_of_le (by omega)] at hor
  contradiction

lemma whole_nil : Whole [] := by decide

lemma beginsWith_mono {word s text : List Char} (hs : s <+: text)
    (h : beginsWith word s = true) : beginsWith word text = true := by
  rw [beginsWith_iff] at h ⊢
  exact h.trans (hs.map asciiLower)

lemma beginsWith_of_isPrefix {word s text : List Char} (hs : s <+: text)
    (hlen : word.length ≤ s.length) (h : beginsWith word text = true) :
    beginsWith word s = true := by
  rw [beginsWith_iff] at h ⊢
  exact List.prefix_of_prefix_length_le h (hs.map asciiLower) (by simpa using hlen)

lemma compoundLength?_mono {s text : List Char} {m : ℕ} (hs : s <+: text)
    (h : compoundLength? s = some m) : compoundLength? text = some m := by
  obtain ⟨word, hword, hlen, hbegins⟩ := compoundLength?_eq_some_iff.mp h
  exact compoundLength?_eq_some_iff.mpr ⟨word, hword, hlen, beginsWith_mono hs hbegins⟩

lemma compoundLength?_of_isPrefix {s text : List Char} {m : ℕ} (hs : s <+: text)
    (hm : m ≤ s.length) (h : compoundLength? text = some m) : compoundLength? s = some m := by
  obtain ⟨word, hword, hlen, hbegins⟩ := compoundLength?_eq_some_iff.mp h
  exact compoundLength?_eq_some_iff.mpr
    ⟨word, hword, hlen, beginsWith_of_isPrefix hs (by omega) hbegins⟩

lemma EndsCompound.mono {inside : ℕ} {s text : List Char} (hs : s <+: text)
    (h : EndsCompound inside s) : EndsCompound inside text := by
  obtain ⟨word, hword, passed, hpos, hlen, hends⟩ := h
  exact ⟨word, hword, passed, hpos, hlen, beginsWith_mono hs hends⟩

lemma EndsCompound.of_isPrefix {inside : ℕ} {s text : List Char} (hs : s <+: text)
    (hle : inside ≤ s.length) (h : EndsCompound inside text) : EndsCompound inside s := by
  obtain ⟨word, hword, passed, hpos, hlen, hends⟩ := h
  refine ⟨word, hword, passed, hpos, hlen, beginsWith_of_isPrefix hs ?_ hends⟩
  rw [List.length_drop]
  omega

lemma plus_not_mem_compounds : ∀ word ∈ compounds, '+' ∉ word := by decide

/-- An uncut word holds an `or` completely or not at all. -/
lemma compounds_or_end : ∀ word ∈ compounds, ∀ passed < word.length,
    (word.drop passed <+: "or".toList ∨ "or".toList <+: word.drop passed) →
      passed + 2 ≤ word.length := by
  decide

lemma EndsCompound.head_ne_plus {k : ℕ} {c : Char} {rest : List Char}
    (h : EndsCompound (k + 1) (c :: rest)) : c ≠ '+' := by
  rintro rfl
  obtain ⟨word, hword, passed, -, hlen, hends⟩ := h
  rw [List.drop_eq_getElem_cons (by omega), beginsWith, Bool.and_eq_true, beq_iff_eq] at hends
  have hplus : '+' = word[passed] := hends.1
  exact plus_not_mem_compounds word hword (hplus ▸ List.getElem_mem _)

lemma EndsCompound.two_le {k : ℕ} {text : List Char} (h : EndsCompound (k + 1) text)
    (hor : beginsWith "or".toList text = true) : 2 ≤ k + 1 := by
  obtain ⟨word, hword, passed, -, hlen, hends⟩ := h
  rw [beginsWith_iff] at hends hor
  have hmeet := List.prefix_or_prefix_of_prefix hends hor
  have := compounds_or_end word hword passed (by omega) hmeet
  omega

lemma wholeFrom_inside {k : ℕ} {c : Char} {s : List Char}
    (hends : EndsCompound (k + 1) (c :: s)) :
    WholeFrom (k + 1) (c :: s) ↔ WholeFrom k s := by
  constructor
  · rintro ⟨hplus, hor⟩
    exact ⟨fun h => hplus (List.mem_cons_of_mem c h),
      fun i hi => (shelteredFrom_inside hends).mp (hor (i + 1) hi)⟩
  · rintro ⟨hplus, hor⟩
    refine ⟨?_, fun i hi => ?_⟩
    · simp [hplus, hends.head_ne_plus.symm]
    · cases i with
      | zero => exact .inl (by have := hends.two_le hi; omega)
      | succ i => exact (shelteredFrom_inside hends).mpr (hor i hi)

lemma whole_compound {m : ℕ} {c : Char} {s : List Char}
    (hm : compoundLength? (c :: s) = some m) : Whole (c :: s) ↔ WholeFrom (m - 1) s := by
  rw [← wholeFrom_zero]
  constructor
  · rintro ⟨hplus, hor⟩
    refine ⟨fun h => hplus (List.mem_cons_of_mem c h), fun i hi => ?_⟩
    exact (sheltered_compound hm).mp ((shelteredFrom_zero (by decide)).mp (hor (i + 1) hi))
  · rintro ⟨hplus, hor⟩
    refine ⟨?_, fun i hi => ?_⟩
    · rw [List.mem_cons]
      rintro (rfl | h)
      · rw [compoundLength?_of_head (by decide)] at hm
        contradiction
      · exact hplus h
    · rw [shelteredFrom_zero (by decide)]
      cases i with
      | zero => exact sheltered_zero.mpr ⟨m, hm, by have := compoundLength?_le hm; omega⟩
      | succ i => exact (sheltered_compound hm).mpr (hor i hi)

lemma whole_plain {c : Char} {s : List Char} (hplus : c ≠ '+')
    (hor : beginsWith "or".toList (c :: s) = false) (h : Whole s) : Whole (c :: s) := by
  rw [← wholeFrom_zero] at h ⊢
  refine ⟨by simp [h.1, hplus.symm], fun i hi => ?_⟩
  rw [shelteredFrom_zero (by decide)]
  cases i with
  | zero => rw [List.drop_zero, hor] at hi; contradiction
  | succ i => exact sheltered_cons_succ.mpr (.inr ((shelteredFrom_zero (by decide)).mp (h.2 i hi)))

lemma Whole.of_plain {c : Char} {s : List Char} (hnone : compoundLength? (c :: s) = none)
    (h : Whole (c :: s)) :
    c ≠ '+' ∧ beginsWith "or".toList (c :: s) = false ∧ Whole s := by
  rw [← wholeFrom_zero] at h ⊢
  refine ⟨fun hc => h.1 (by simp [hc]), ?_, fun hs => h.1 (List.mem_cons_of_mem c hs),
    fun i hi => ?_⟩
  · by_contra hor
    obtain ⟨m, hm, -⟩ := sheltered_zero.mp
      ((shelteredFrom_zero (by decide)).mp (h.2 0 (by simpa using hor)))
    rw [hnone] at hm
    contradiction
  · have hsheltered := (shelteredFrom_zero (by decide)).mp (h.2 (i + 1) hi)
    rw [sheltered_plain hnone] at hsheltered
    exact (shelteredFrom_zero (by decide)).mpr hsheltered

/-- No uncut word and no `or` begins in the segment and ends in the text behind it. -/
structure Seam (s rest : List Char) : Prop where
  compound : ∀ suffix, suffix <:+ s → suffix ≠ [] →
    compoundLength? (suffix ++ rest) = compoundLength? suffix
  or : ∀ d more, rest = d :: more → asciiLower d ≠ 'r'

lemma Seam.tail {c : Char} {s rest : List Char} (h : Seam (c :: s) rest) : Seam s rest :=
  ⟨fun suffix hs => h.compound suffix (hs.trans (List.suffix_cons c s)), h.or⟩

lemma beginsWith_or_cons {c d : Char} {rest : List Char} :
    beginsWith "or".toList (c :: d :: rest) = isOr c d := by
  simp [beginsWith, isOr]

lemma precede_text_cons (r : Reading) (c : Char) (s : List Char) :
    (r.precede (.text s)).precede (.text [c]) = r.precede (.text (c :: s)) := by
  simp [precede, precedeText_append]

lemma precede_text_nil (r : Reading) : r.precede (.text []) = r := by
  obtain ⟨⟨names, key⟩, others⟩ := r
  cases names <;> rfl

/-- A whole segment is passed through, whatever part of an uncut word it begins with. -/
theorem Reads.append {inside : ℕ} {s rest : List Char} {r : Reading}
    (hwhole : WholeFrom inside s) (hends : EndsCompound inside s) (hlen : inside ≤ s.length)
    (hseam : Seam s rest) (hr : Reads 0 rest r) :
    Reads inside (s ++ rest) (r.precede (.text s)) := by
  induction s generalizing inside with
  | nil =>
      obtain rfl : inside = 0 := by simpa using hlen
      rwa [precede_text_nil]
  | cons c s ih =>
      rw [← precede_text_cons]
      have hcompound := hseam.compound (c :: s) List.suffix_rfl (by simp)
      cases inside with
      | succ k =>
          exact .inside (hends.mono (List.prefix_append _ rest))
            (ih ((wholeFrom_inside hends).mp hwhole) hends.tail (by simpa using hlen) hseam.tail)
      | zero =>
          rw [wholeFrom_zero] at hwhole
          cases hm : compoundLength? (c :: s) with
          | some m =>
              have hle := (compoundLength?_le hm).2
              rw [List.length_cons] at hle
              exact .compound (hcompound.trans hm)
                (ih ((whole_compound hm).mp hwhole) (.of_compoundLength? hm) (by omega) hseam.tail)
          | none =>
              obtain ⟨hplus, hor, hs⟩ := hwhole.of_plain hm
              refine .plain (hcompound.trans hm) hplus ?_
                (ih (wholeFrom_zero.mpr hs) (.zero s) (Nat.zero_le _) hseam.tail)
              intro d more hd
              cases s with
              | nil => simp [isOr, hseam.or d more hd]
              | cons e s =>
                  obtain rfl : e = d := by simpa using congrArg List.head? hd
                  rwa [beginsWith_or_cons] at hor

end Keychord.Reading
