import Keychord.Proofs.Text.LetterCase
import Keychord.Proofs.Text.Trim

/-!
# What lower case does to a text

Lower case puts an image in the place of each character. Which one a capital sigma gets depends on
the characters around it, but what shortcuts rely on holds of every image: it is in lower case
itself, so that lower case taken twice is lower case taken once; it is blank just where the
character was; and it has none of the letters that the marks and the uncut words are made of,
unless it is such a letter and the character was this letter, small or capital.
-/
namespace Keychord.Text

/-- The last code point that the run maps to. -/
def CaseRun.lastImage (run : CaseRun) : ℕ := run.image + (run.last - run.first)

/-- The other run maps no image of the run: the two ranges do not meet, or there are only odd code
points in the one and only even ones in the other. -/
def CaseRun.misses (run other : CaseRun) : Bool :=
  Nat.blt run.lastImage other.first || Nat.blt other.last run.image ||
    (run.step == 2 || run.first == run.last) && other.step == 2 && run.image % 2 != other.first % 2

lemma CaseRun.map?_eq_some_iff {run : CaseRun} {n m : ℕ} :
    run.map? n = some m ↔
      (run.first ≤ n ∧ n ≤ run.last ∧ (n - run.first) % run.step = 0) ∧
        run.image + (n - run.first) = m := by
  simp [CaseRun.map?, and_assoc]

lemma CaseRun.map?_bounds {run : CaseRun} {n m : ℕ} (h : run.map? n = some m) :
    run.image ≤ m ∧ m ≤ run.lastImage := by
  obtain ⟨⟨-, hlast, -⟩, rfl⟩ := CaseRun.map?_eq_some_iff.mp h
  rw [CaseRun.lastImage]
  omega

lemma CaseRun.map?_eq_none_of_misses {run other : CaseRun} {n m : ℕ}
    (h : run.misses other = true) (hm : run.map? n = some m) : other.map? m = none := by
  obtain ⟨hlow, hhigh⟩ := CaseRun.map?_bounds hm
  obtain ⟨⟨hfirst, hlast, hstep⟩, hn⟩ := CaseRun.map?_eq_some_iff.mp hm
  rw [Option.eq_none_iff_forall_not_mem]
  intro k hk
  obtain ⟨⟨hfirst', hlast', hstep'⟩, -⟩ := CaseRun.map?_eq_some_iff.mp hk
  simp only [CaseRun.misses, Bool.or_eq_true, Bool.and_eq_true, Nat.blt_eq, beq_iff_eq,
    bne_iff_ne] at h
  rcases h with (h | h) | ⟨⟨hrun, hother⟩, hparity⟩
  · omega
  · omega
  · rw [hother] at hstep'
    rcases hrun with hrun | hrun
    · rw [hrun] at hstep
      omega
    · omega

/-- A code point that the table maps is mapped by one of its runs. -/
lemma exists_run_of_mapRuns? {runs : List CaseRun} {n m : ℕ} (h : mapRuns? runs n = some m) :
    ∃ run ∈ runs, run.map? n = some m :=
  List.exists_of_findSome?_eq_some h

lemma lowerRuns_miss : (lowerRuns.all fun run => lowerRuns.all run.misses) = true := by
  decide +kernel

/-- What the table maps to is not mapped again. -/
lemma mapRuns?_lowerRuns_eq_none {n m : ℕ} (h : mapRuns? lowerRuns n = some m) :
    mapRuns? lowerRuns m = none := by
  obtain ⟨run, hrun, hmap⟩ := exists_run_of_mapRuns? h
  rw [mapRuns?, List.findSome?_eq_none_iff]
  intro other hother
  have hmisses := List.all_eq_true.mp (List.all_eq_true.mp lowerRuns_miss run hrun) other hother
  exact CaseRun.map?_eq_none_of_misses hmisses hmap

/-- What lower case may put in the place of a character. -/
inductive Image : Char → List Char → Prop
  | sigma : Image 'Σ' ['σ']
  | finalSigma : Image 'Σ' ['ς']
  | other {c : Char} (no_sigma : c ≠ 'Σ') : Image c (lowerChar c)

lemma toNat_ofNat_of_mapRuns? {n m : ℕ} (h : mapRuns? lowerRuns n = some m) :
    (Char.ofNat m).toNat = m := by
  have hvalid : ∀ run ∈ lowerRuns, run.lastImage < 0xD800 ∨
      0xDFFF < run.image ∧ run.lastImage < 0x110000 := by
    decide +kernel
  obtain ⟨run, hrun, hmap⟩ := exists_run_of_mapRuns? h
  obtain ⟨hlow, hhigh⟩ := CaseRun.map?_bounds hmap
  have hm : m.isValidChar := by
    rcases hvalid run hrun with h | h
    · exact .inl (by omega)
    · exact .inr (by omega)
  rw [Char.ofNat, dif_pos hm]
  rfl

/-- A character has two characters as its lower case, or is mapped by the table, or stays. -/
lemma lowerChar_cases (c : Char) :
    c = 'İ' ∧ lowerChar c = ['i', '\u0307'] ∨
    (∃ d : Char, mapRuns? lowerRuns c.toNat = some d.toNat ∧ lowerChar c = [d]) ∨
    lowerChar c = [c] := by
  unfold lowerChar
  by_cases hdotted : c = 'İ'
  · exact .inl ⟨hdotted, if_pos hdotted⟩
  · rw [if_neg hdotted]
    cases hmap : mapRuns? lowerRuns c.toNat with
    | none => exact .inr (.inr rfl)
    | some m => exact .inr (.inl ⟨Char.ofNat m, by rw [toNat_ofNat_of_mapRuns? hmap], rfl⟩)

lemma Image.ne_nil {c : Char} {image : List Char} (h : Image c image) : image ≠ [] := by
  cases h with
  | sigma => exact List.cons_ne_nil _ _
  | finalSigma => exact List.cons_ne_nil _ _
  | other =>
      rcases lowerChar_cases c with ⟨-, heq⟩ | ⟨d, -, heq⟩ | heq <;> simp [heq]

/-- The character has no other lower case than itself, wherever it stands. -/
def IsLower (c : Char) : Prop := c ≠ 'Σ' ∧ lowerChar c = [c]

instance (c : Char) : Decidable (IsLower c) := inferInstanceAs (Decidable (_ ∧ _))

/-- Where the characters of an image come from: there are a few special ones, and else the table
gives one, or the character stays. -/
lemma Image.mem_cases {c d : Char} {image : List Char} (h : Image c image) (hd : d ∈ image) :
    (c = 'Σ' ∨ c = 'İ') ∧ d ∈ ['σ', 'ς', 'i', '\u0307'] ∨
    mapRuns? lowerRuns c.toNat = some d.toNat ∨
    d = c ∧ IsLower c := by
  cases h with
  | sigma => exact .inl ⟨.inl rfl, by simp_all⟩
  | finalSigma => exact .inl ⟨.inl rfl, by simp_all⟩
  | other no_sigma =>
      rcases lowerChar_cases c with ⟨hdotted, heq⟩ | ⟨d', hmap, heq⟩ | heq
      · rw [heq] at hd
        exact .inl ⟨.inr hdotted, List.mem_append_right ['σ', 'ς'] hd⟩
      · obtain rfl : d = d' := by simpa [heq] using hd
        exact .inr (.inl hmap)
      · obtain rfl : d = c := by simpa [heq] using hd
        exact .inr (.inr ⟨rfl, no_sigma, heq⟩)

/-- What the table maps to is in lower case. -/
lemma isLower_of_mapRuns? {n : ℕ} {d : Char} (h : mapRuns? lowerRuns n = some d.toNat) :
    IsLower d := by
  have hnone := mapRuns?_lowerRuns_eq_none h
  have hsigma : mapRuns? lowerRuns 'Σ'.toNat ≠ none := by decide +kernel
  have hdotted : ∀ run ∈ lowerRuns, run.lastImage < 'İ'.toNat ∨ 'İ'.toNat < run.image := by
    decide +kernel
  obtain ⟨run, hrun, hmap⟩ := exists_run_of_mapRuns? h
  have hbounds := CaseRun.map?_bounds hmap
  constructor
  · rintro rfl
    exact hsigma hnone
  · rw [lowerChar, if_neg, hnone]
    rintro rfl
    have := hdotted run hrun
    omega

/-- An image is in lower case. -/
lemma Image.isLower {c d : Char} {image : List Char} (h : Image c image) (hd : d ∈ image) :
    IsLower d := by
  have hspecial : ∀ d ∈ ['σ', 'ς', 'i', '\u0307'], IsLower d :=
    List.forall_iff_forall_mem.mp (by decide +kernel)
  rcases h.mem_cases hd with ⟨-, hmem⟩ | hmap | ⟨rfl, hlower⟩
  · exact hspecial d hmem
  · exact isLower_of_mapRuns? hmap
  · exact hlower

lemma Ranges.has_eq_false {ranges : Ranges} {c : Char}
    (h : ∀ r ∈ ranges, r.2 < c.toNat ∨ c.toNat < r.1) : ranges.has c = false := by
  rw [← Bool.not_eq_true, Ranges.has_iff]
  rintro ⟨r, hr, hlo, hhi⟩
  have := h r hr
  omega

/-- The table maps no blank and maps nothing to a blank. -/
lemma isBlank_of_mapRuns? {c d : Char} (h : mapRuns? lowerRuns c.toNat = some d.toNat) :
    isBlank c = false ∧ isBlank d = false := by
  have hapart : ∀ run ∈ lowerRuns, ∀ r ∈ blankRanges,
      (r.2 < run.first ∨ run.last < r.1) ∧ (r.2 < run.image ∨ run.lastImage < r.1) := by
    decide +kernel
  obtain ⟨run, hrun, hmap⟩ := exists_run_of_mapRuns? h
  have hbounds := CaseRun.map?_bounds hmap
  obtain ⟨⟨hfirst, hlast, -⟩, -⟩ := CaseRun.map?_eq_some_iff.mp hmap
  constructor
  · refine Ranges.has_eq_false fun r hr => ?_
    have := hapart run hrun r hr
    omega
  · refine Ranges.has_eq_false fun r hr => ?_
    have := hapart run hrun r hr
    omega

/-- An image is blank where the character was. -/
lemma Image.isBlank_eq {c d : Char} {image : List Char} (h : Image c image) (hd : d ∈ image) :
    isBlank d = isBlank c := by
  have hspecial : ∀ d ∈ ['σ', 'ς', 'i', '\u0307'], isBlank d = false :=
    List.forall_iff_forall_mem.mp (by decide)
  rcases h.mem_cases hd with ⟨rfl | rfl, hmem⟩ | hmap | ⟨rfl, -⟩
  · exact hspecial d hmem
  · exact hspecial d hmem
  · obtain ⟨hc, hd⟩ := isBlank_of_mapRuns? hmap
    rw [hc, hd]
  · rfl

/-- What the marks and the uncut words are made of. -/
def markLetters : List Char := "+acdlmnort".toList

lemma Image.eq_of_mem_markLetters {c : Char} {image : List Char} (h : Image c image)
    (hc : asciiLower c ∈ markLetters) : image = [asciiLower c] := by
  have hlower : ∀ d ∈ markLetters, lowerChar d = [d] :=
    List.forall_iff_forall_mem.mp (by decide +kernel)
  have hsigma : asciiLower 'Σ' ∉ markLetters := by decide
  cases h with
  | sigma => exact absurd hc hsigma
  | finalSigma => exact absurd hc hsigma
  | other => rw [← lowerChar_asciiLower, hlower _ hc]

/-- The table maps only capital letters of the marks to letters of the marks: those are in its first
run, and no other run comes near them. -/
lemma asciiLower_eq_of_mapRuns? {c d : Char} (h : mapRuns? lowerRuns c.toNat = some d.toNat)
    (hmark : d ∈ markLetters) : asciiLower c = d := by
  have hmiss : ∀ run ∈ lowerRuns.tail, markLetters.Forall fun e =>
      run.lastImage < e.toNat ∨ e.toNat < run.image := by
    decide +kernel
  obtain ⟨run, hrun, hmap⟩ := exists_run_of_mapRuns? h
  have hbounds := CaseRun.map?_bounds hmap
  rw [show lowerRuns = ⟨65, 90, 1, 97⟩ :: lowerRuns.tail from rfl, List.mem_cons] at hrun
  rcases hrun with rfl | hrun
  · obtain ⟨⟨hfirst, hlast, -⟩, heq⟩ := CaseRun.map?_eq_some_iff.mp hmap
    rw [← Char.toNat_inj, toNat_asciiLower, if_pos ⟨hfirst, hlast⟩]
    simp only at hfirst heq
    omega
  · have := List.forall_iff_forall_mem.mp (hmiss run hrun) d hmark
    omega

/-- No character but the letter itself, small or capital, has the letter in its image. -/
lemma Image.asciiLower_eq {c d : Char} {image : List Char} (h : Image c image) (hd : d ∈ image)
    (hmark : d ∈ markLetters) : asciiLower c = d := by
  have hspecial : ∀ d ∈ ['σ', 'ς', 'i', '\u0307'], d ∉ markLetters :=
    List.forall_iff_forall_mem.mp (by decide)
  have hsmall : ∀ e ∈ markLetters, asciiLower e = e :=
    List.forall_iff_forall_mem.mp (by decide)
  rcases h.mem_cases hd with ⟨-, hmem⟩ | hmap | ⟨rfl, -⟩
  · exact absurd hmark (hspecial d hmem)
  · exact asciiLower_eq_of_mapRuns? hmap hmark
  · exact hsmall d hmark

/-- Code points below those of all other runs are left to the first run. -/
lemma mapRuns?_cons_of_lt {run : CaseRun} {others : List CaseRun} {n : ℕ}
    (h : ∀ other ∈ others, n < other.first) : mapRuns? (run :: others) n = run.map? n := by
  have hothers : mapRuns? others n = none := by
    refine List.findSome?_eq_none_iff.mpr fun other hother => ?_
    have hlt := h other hother
    rw [CaseRun.map?, if_neg]
    simp only [Bool.and_eq_true, decide_eq_true_eq, not_and]
    omega
  rw [mapRuns?, List.findSome?_cons]
  cases run.map? n with
  | some m => rfl
  | none => exact hothers

lemma lowerChar_of_ascii {c : Char} (hc : c.toNat < 128) : lowerChar c = [asciiLower c] := by
  have hothers : ∀ run ∈ lowerRuns.tail, 128 ≤ run.first := by decide +kernel
  have hmap : mapRuns? lowerRuns c.toNat = CaseRun.map? ⟨65, 90, 1, 97⟩ c.toNat :=
    mapRuns?_cons_of_lt fun run hrun => Nat.lt_of_lt_of_le hc (hothers run hrun)
  have hfirst : ∀ n < 128, (CaseRun.map? ⟨65, 90, 1, 97⟩ n).elim (Char.ofNat n) Char.ofNat =
      asciiLower (Char.ofNat n) := by
    decide +kernel
  have hdotted : c ≠ 'İ' := by
    rintro rfl
    exact absurd hc (by decide)
  have himage := hfirst c.toNat hc
  rw [Char.ofNat_toNat] at himage
  rw [lowerChar, if_neg hdotted, hmap, ← himage]
  cases CaseRun.map? ⟨65, 90, 1, 97⟩ c.toNat <;> rfl

/-- No capital letter is in lower case. -/
lemma IsLower.asciiLower_eq {c : Char} (h : IsLower c) : asciiLower c = c := by
  rcases asciiLower_eq_or c with heq | ⟨-, hhi, -⟩
  · exact heq
  · have hlower := lowerChar_of_ascii (c := c) (by omega)
    rw [h.2] at hlower
    simpa using hlower.symm

/-- The second text has, in order, an image of each character of the first. -/
inductive Images : List Char → List Char → Prop
  | nil : Images [] []
  | cons {c : Char} {image text lowered : List Char} (head : Image c image)
      (tail : Images text lowered) : Images (c :: text) (image ++ lowered)

lemma images_lowerAfter (before text : List Char) : Images text (lowerAfter before text) := by
  induction text generalizing before with
  | nil => exact .nil
  | cons c rest ih =>
      rw [lowerAfter]
      split_ifs with hsigma
      · subst hsigma
        exact .cons .finalSigma (ih _)
      · subst hsigma
        exact .cons .sigma (ih _)
      · exact .cons (.other hsigma) (ih _)

lemma images_lower (text : List Char) : Images text (lower text) :=
  images_lowerAfter [] text

lemma Images.isLower {text lowered : List Char} (h : Images text lowered) :
    ∀ d ∈ lowered, IsLower d := by
  induction h with
  | nil => simp
  | cons head tail ih =>
      intro d hd
      rcases List.mem_append.mp hd with hd | hd
      · exact head.isLower hd
      · exact ih d hd

lemma lowerAfter_eq_self {before text : List Char} (h : ∀ c ∈ text, IsLower c) :
    lowerAfter before text = text := by
  induction text generalizing before with
  | nil => rfl
  | cons c rest ih =>
      rw [List.forall_mem_cons] at h
      rw [lowerAfter, if_neg h.1.1, h.1.2, ih h.2]
      rfl

/-- A text in lower case stays as it is, sigmas at the end of words included. -/
theorem lower_eq_self {text : List Char} (h : ∀ c ∈ text, IsLower c) : lower text = text :=
  lowerAfter_eq_self h

theorem lower_lower (text : List Char) : lower (lower text) = lower text :=
  lower_eq_self (images_lower text).isLower

@[simp] theorem lowercase_lowercase (s : String) : lowercase (lowercase s) = lowercase s := by
  simp [lowercase, lower_lower]

lemma isLower_of_lower_eq {text : List Char} (h : lower text = text) : ∀ c ∈ text, IsLower c := by
  have himages := (images_lower text).isLower
  rwa [h] at himages

/-- A text in lower case has no capital letters. -/
lemma fold_eq_self {text : List Char} (h : lower text = text) : fold text = text := by
  have hsame : ∀ c ∈ text, asciiLower c = id c :=
    fun c hc => (isLower_of_lower_eq h c hc).asciiLower_eq
  rw [fold, List.map_congr_left hsame, List.map_id]

lemma Images.append_inv {xs ys lowered : List Char} (h : Images (xs ++ ys) lowered) :
    ∃ xs' ys', lowered = xs' ++ ys' ∧ Images xs xs' ∧ Images ys ys' := by
  induction xs generalizing lowered with
  | nil => exact ⟨[], lowered, rfl, .nil, h⟩
  | cons c xs ih =>
      cases h with
      | cons head tail =>
          obtain ⟨xs', ys', rfl, hxs, hys⟩ := ih tail
          exact ⟨_, ys', (List.append_assoc ..).symm, .cons head hxs, hys⟩

/-- Only the empty text has no images. -/
lemma Images.eq_nil {text : List Char} (h : Images text []) : text = [] := by
  generalize hlowered : [] = lowered at h
  cases h with
  | nil => rfl
  | cons head tail =>
      exact absurd (List.append_eq_nil_iff.mp hlowered.symm).1 head.ne_nil

/-- Where a letter of the marks stands among the images, this letter stood in the text. -/
lemma Images.split {text before after : List Char} {d : Char}
    (h : Images text (before ++ d :: after)) (hd : d ∈ markLetters) :
    ∃ xs c ys, text = xs ++ c :: ys ∧ asciiLower c = d ∧ Images xs before ∧ Images ys after := by
  generalize hlowered : before ++ d :: after = lowered at h
  induction h generalizing before with
  | nil => simp at hlowered
  | @cons c image text lowered head tail ih =>
      rcases List.append_eq_append_iff.mp hlowered.symm with
        ⟨rest, rfl, hrest⟩ | ⟨rest, himage, hrest⟩
      · obtain ⟨xs, e, ys, rfl, he, hxs, hys⟩ := ih hrest.symm
        exact ⟨c :: xs, e, ys, rfl, he, .cons head hxs, hys⟩
      · cases rest with
        | nil =>
            have hfirst : [] ++ d :: after = lowered := hrest
            obtain ⟨xs, e, ys, rfl, he, hxs, hys⟩ := ih hfirst
            have hbefore : before = image ++ [] := by simpa using himage.symm
            exact ⟨c :: xs, e, ys, rfl, he, hbefore ▸ .cons head hxs, hys⟩
        | cons e rest =>
            obtain ⟨rfl, rfl⟩ := List.cons.inj hrest
            have hc : asciiLower c = d := head.asciiLower_eq (by simp [himage]) hd
            have hone := head.eq_of_mem_markLetters (hc.symm ▸ hd)
            rw [hc, himage] at hone
            obtain ⟨rfl, rfl⟩ : before = [] ∧ rest = [] := by
              cases before <;> simp_all
            exact ⟨[], c, text, rfl, hc, .nil, tail⟩

/-- Letters of the marks keep their places. -/
lemma Images.eq_map {text lowered : List Char} (h : Images text lowered)
    (hmarks : ∀ c ∈ text, asciiLower c ∈ markLetters) : lowered = text.map asciiLower := by
  induction h with
  | nil => rfl
  | cons head tail ih =>
      rw [List.forall_mem_cons] at hmarks
      rw [head.eq_of_mem_markLetters hmarks.1, ih hmarks.2]
      rfl

/-- Lower case brings no blanks to the ends of a text. -/
lemma Images.trimmed {text lowered : List Char} (h : Images text lowered) (ht : Trimmed text) :
    Trimmed lowered where
  leading d hd := by
    cases h with
    | nil => simp at hd
    | @cons c image rest lowered head tail =>
        rw [List.head?_append_of_ne_nil _ head.ne_nil] at hd
        rw [head.isBlank_eq (List.mem_of_mem_head? hd)]
        exact ht.leading c rfl
  trailing d hd := by
    rcases List.eq_nil_or_concat text with rfl | ⟨init, c, rfl⟩
    · cases h
      simp at hd
    · rw [List.concat_eq_append] at h ht
      obtain ⟨xs, ys, rfl, -, hlast⟩ := h.append_inv
      cases hlast with
      | cons head tail =>
          cases tail
          rw [List.append_nil, List.getLast?_append_of_ne_nil _ head.ne_nil] at hd
          rw [head.isBlank_eq (List.mem_of_getLast? hd)]
          exact ht.trailing c (by simp)

end Keychord.Text
