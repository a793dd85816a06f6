import Keychord.Proofs.Reading.Compounds

/-!
# Reading character by character

`Reads inside text r` builds the reading of a text from its end, one mark or one character of
plain text at a time, where the first `inside` characters still belong to an uncut word. Each
rule carries the reason why it applies, so that a fact about readings is proved by one case for
each rule. The scanner follows exactly these rules.
-/
namespace Keychord.Reading

inductive Reads : ℕ → List Char → Reading → Prop
  | nil : Reads 0 [] ⟨.empty, []⟩
  | inside {k : ℕ} {c : Char} {rest : List Char} {r : Reading}
      (ends : EndsCompound (k + 1) (c :: rest)) (h : Reads k rest r) :
      Reads (k + 1) (c :: rest) (r.precede (.text [c]))
  | compound {m : ℕ} {c : Char} {rest : List Char} {r : Reading}
      (begins : compoundLength? (c :: rest) = some m) (h : Reads (m - 1) rest r) :
      Reads 0 (c :: rest) (r.precede (.text [c]))
  | plus {rest : List Char} {r : Reading} (h : Reads 0 rest r) :
      Reads 0 ('+' :: rest) (r.precede .plus)
  | or {o t : Char} {rest : List Char} {r : Reading} (spelled : isOr o t = true)
      (h : Reads 0 rest r) : Reads 0 (o :: t :: rest) (r.precede (.or o t))
  | plain {c : Char} {rest : List Char} {r : Reading}
      (none : compoundLength? (c :: rest) = none) (no_plus : c ≠ '+')
      (no_or : ∀ d more, rest = d :: more → isOr c d = false) (h : Reads 0 rest r) :
      Reads 0 (c :: rest) (r.precede (.text [c]))

lemma precedeText_append (xs ys : List Char) (a : Alternative) :
    (a.precedeText ys).precedeText xs = a.precedeText (xs ++ ys) := by
  obtain ⟨names, key⟩ := a
  cases names <;> simp [Alternative.precedeText]

lemma ofTokens_cons (t : Token) (tokens : List Token) :
    ofTokens (t :: tokens) = (ofTokens tokens).precede t := rfl

/-- A character glued to the tokens stands in front of the reading's first segment. -/
lemma ofTokens_glue (c : Char) (tokens : List Token) :
    ofTokens (glue c tokens) = (ofTokens tokens).precede (.text [c]) := by
  unfold glue
  split
  · simp only [ofTokens_cons, precede, precedeText_append, List.singleton_append]
  · rfl

lemma compoundLength?_le {text : List Char} {m : ℕ} (h : compoundLength? text = some m) :
    9 ≤ m ∧ m ≤ text.length := by
  obtain ⟨word, hword, rfl, hbegins⟩ := compoundLength?_eq_some_iff.mp h
  have hle := ((beginsWith_iff word text).mp hbegins).length_le
  rw [List.length_map] at hle
  exact ⟨compounds_length word hword, hle⟩

/-- Uncut words begin with a `c`, so none begins at a mark. -/
lemma compoundLength?_of_head {c : Char} {rest : List Char}
    (h : Text.asciiLower c ≠ 'c') : compoundLength? (c :: rest) = none := by
  have hheads : ∀ word ∈ compounds, word.head? = some 'c' := by decide
  rw [compoundLength?_eq_none_iff]
  intro word hword
  have hhead := hheads word hword
  cases word with
  | nil => simp at hhead
  | cons w word =>
      obtain rfl : w = 'c' := by simpa using hhead
      simp [beginsWith, h]

lemma EndsCompound.eq_zero_of_nil {inside : ℕ} (h : EndsCompound inside []) : inside = 0 := by
  obtain ⟨word, -, passed, -, hlen, hends⟩ := h
  have hle := ((beginsWith_iff _ _).mp hends).length_le
  simp only [List.length_drop, List.map_nil, List.length_nil] at hle
  omega

/-- The scanner's reading is built by the rules. -/
theorem reads_scanFrom {inside : ℕ} {text : List Char} (h : EndsCompound inside text) :
    Reads inside text (ofTokens (scanFrom inside text)) := by
  fun_induction scanFrom inside text with
  | case1 inside =>
      obtain rfl := h.eq_zero_of_nil
      exact .nil
  | case2 inside c rest ih =>
      rw [ofTokens_glue]
      exact .inside h (ih h.tail)
  | case3 => exact .plus .nil
  | case4 c hc =>
      refine .plain ?_ hc (by simp) .nil
      by_contra hm
      obtain ⟨m, hm⟩ := Option.ne_none_iff_exists'.mp hm
      have := compoundLength?_le hm
      simp only [List.length_singleton] at this
      omega
  | case5 c d rest length hm ih =>
      rw [ofTokens_glue]
      exact .compound hm (ih (.of_compoundLength? hm))
  | case6 d rest hm ih => exact .plus (ih (.zero _))
  | case7 c d rest hm hc hor ih => exact .or hor (ih (.zero _))
  | case8 c d rest hm hc hor ih =>
      rw [ofTokens_glue]
      refine .plain hm hc ?_ (ih (.zero _))
      intro e more he
      obtain rfl : d = e := by simpa using congrArg List.head? he
      simpa using hor

theorem reads_ofText (text : List Char) : Reads 0 text (ofText text) :=
  reads_scanFrom (.zero text)

lemma scanFrom_compound {c : Char} {rest : List Char} {m : ℕ}
    (h : compoundLength? (c :: rest) = some m) :
    scanFrom 0 (c :: rest) = glue c (scanFrom (m - 1) rest) := by
  cases rest with
  | nil => have := compoundLength?_le h; simp at this; omega
  | cons d rest => rw [scanFrom, h]

lemma scanFrom_plus (rest : List Char) : scanFrom 0 ('+' :: rest) = .plus :: scanFrom 0 rest := by
  cases rest with
  | nil => simp [scanFrom]
  | cons d rest =>
      have hnone : compoundLength? ('+' :: d :: rest) = none := compoundLength?_of_head (by decide)
      simp [scanFrom, hnone]

lemma scanFrom_or {o t : Char} (h : isOr o t = true) (rest : List Char) :
    scanFrom 0 (o :: t :: rest) = .or o t :: scanFrom 0 rest := by
  have hlower : Text.asciiLower o = 'o' := by
    simp only [isOr, Bool.and_eq_true, beq_iff_eq] at h
    exact h.1
  have hnone : compoundLength? (o :: t :: rest) = none := compoundLength?_of_head (by simp [hlower])
  have hplus : o ≠ '+' := by rintro rfl; simp [Text.asciiLower] at hlower
  simp [scanFrom, hnone, hplus, h]

lemma scanFrom_plain {c : Char} {rest : List Char} (hnone : compoundLength? (c :: rest) = none)
    (hplus : c ≠ '+') (hor : ∀ d more, rest = d :: more → isOr c d = false) :
    scanFrom 0 (c :: rest) = glue c (scanFrom 0 rest) := by
  cases rest with
  | nil => simp [scanFrom, hplus, glue]
  | cons d rest => simp [scanFrom, hnone, hplus, hor d rest rfl]

/-- What is left of an uncut word is glued on character by character. -/
lemma scanFrom_eq_foldr_glue (inside : ℕ) (text : List Char) :
    scanFrom inside text = (text.take inside).foldr glue (scanFrom 0 (text.drop inside)) := by
  induction inside generalizing text with
  | zero => rfl
  | succ inside ih =>
      cases text with
      | nil => simp [scanFrom]
      | cons c rest =>
          rw [scanFrom, ih]
          rfl

/-- The rules leave no choice. -/
theorem Reads.eq_ofTokens {inside : ℕ} {text : List Char} {r : Reading}
    (h : Reads inside text r) : r = ofTokens (scanFrom inside text) := by
  induction h with
  | nil => rfl
  | inside ends h ih => rw [scanFrom, ofTokens_glue, ih]
  | compound begins h ih => rw [scanFrom_compound begins, ofTokens_glue, ih]
  | plus h ih => rw [scanFrom_plus, ofTokens_cons, ih]
  | or spelled h ih => rw [scanFrom_or spelled, ofTokens_cons, ih]
  | plain none no_plus no_or h ih => rw [scanFrom_plain none no_plus no_or, ofTokens_glue, ih]

theorem ofText_eq {text : List Char} {r : Reading} (h : Reads 0 text r) : ofText text = r :=
  h.eq_ofTokens.symm

end Keychord.Reading
