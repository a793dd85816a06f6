import Keychord.Proofs.Reading.RoundTrip
import Keychord.Proofs.Text.LowerCase

/-!
# Trimming and lower case make no marks

A segment without marks has none after it is trimmed and put into lower case. No `+` and no `or`
can appear that was not there, and the uncut words, which shelter the `or`s that are there, have no
blanks that could be trimmed off and are kept by lower case.
-/
namespace Keychord.Reading
open Text

/-- A part of a text is sheltered if the text around it makes it an uncut word. -/
lemma sheltered_append_iff {before part after : List Char} :
    Sheltered (before ++ part ++ after) before.length part.length ↔
      ∃ start left right rest, before = start ++ left ∧ after = right ++ rest ∧
        (left ++ part ++ right).map asciiLower ∈ compounds := by
  constructor
  · rintro ⟨word, hword, start, hstart, hend, hstands⟩
    rw [List.append_assoc, List.drop_append_of_le_length hstart, ← List.append_assoc] at hstands
    have hlen := hstands.length_le
    simp only [List.length_map, List.length_append, List.length_drop] at hlen
    set left := before.drop start with hleft
    refine ⟨before.take start, left, after.take (word.length - (left ++ part).length),
      after.drop (word.length - (left ++ part).length), by simp [hleft], by simp, ?_⟩
    have htake := List.prefix_iff_eq_take.mp hstands
    rw [← List.map_take, List.take_append, List.take_of_length_le (by simp [hleft]; omega)] at htake
    rwa [← htake]
  · rintro ⟨start, left, right, rest, rfl, rfl, hword⟩
    refine ⟨_, hword, start.length, by simp, by simp; omega, ?_⟩
    rw [show start ++ left ++ part ++ (right ++ rest) = start ++ (left ++ part ++ right ++ rest) by
      simp, List.drop_left]
    exact (List.prefix_append _ rest).map asciiLower

/-- In a whole segment, each `or` has an uncut word around it. -/
lemma whole_iff {s : List Char} :
    Whole s ↔ '+' ∉ s ∧ ∀ before o t after, s = before ++ [o, t] ++ after → isOr o t = true →
      ∃ start left right rest, before = start ++ left ∧ after = right ++ rest ∧
        (left ++ [o, t] ++ right).map asciiLower ∈ compounds := by
  rw [← wholeFrom_zero, WholeFrom]
  refine and_congr_right fun _ => ?_
  simp only [shelteredFrom_zero (by decide : 0 < 2)]
  constructor
  · rintro h before o t after rfl hor
    rw [← sheltered_append_iff]
    refine h before.length ?_
    rw [List.append_assoc, List.drop_left, List.cons_append, List.cons_append, List.nil_append,
      beginsWith_or_cons, hor]
  · intro h i hor
    obtain ⟨o, t, after, hdrop⟩ : ∃ o t after, s.drop i = o :: t :: after := by
      rcases hs : s.drop i with _ | ⟨o, _ | ⟨t, after⟩⟩
      · simp [hs, beginsWith] at hor
      · simp [hs, beginsWith] at hor
      · exact ⟨o, t, after, rfl⟩
    have hlen : (s.take i).length = i := by
      have := congrArg List.length hdrop
      simp only [List.length_drop, List.length_cons] at this
      rw [List.length_take]
      omega
    have hs : s = s.take i ++ [o, t] ++ after := by
      rw [List.append_assoc, List.cons_append, List.cons_append, List.nil_append, ← hdrop,
        List.take_append_drop]
    rw [hdrop, beginsWith_or_cons] at hor
    have hsheltered := sheltered_append_iff.mpr (h _ o t after hs hor)
    rwa [← hs, hlen] at hsheltered

lemma compounds_unblank {word : List Char} (h : word ∈ compounds) :
    ∀ c ∈ word, isBlank c = false := by
  have hall : ∀ word ∈ compounds, word.Forall fun c => isBlank c = false := by decide
  exact List.forall_iff_forall_mem.mp (hall word h)

/-- Text without blanks that stands at the end does not reach into blanks in front. -/
lemma exists_append_of_unblank {blanks s start left : List Char}
    (hblanks : ∀ c ∈ blanks, isBlank c = true) (hleft : ∀ c ∈ left, isBlank c = false)
    (h : blanks ++ s = start ++ left) : ∃ start', s = start' ++ left := by
  rcases List.append_eq_append_iff.mp h with ⟨rest, -, hs⟩ | ⟨rest, hrest, hleft'⟩
  · exact ⟨rest, hs⟩
  · cases rest with
    | nil => exact ⟨[], hleft'.symm⟩
    | cons c rest =>
        have hblank := hblanks c (by simp [hrest])
        rw [hleft c (by simp [hleft'])] at hblank
        contradiction

lemma exists_append_of_unblank_right {blanks s right rest : List Char}
    (hblanks : ∀ c ∈ blanks, isBlank c = true) (hright : ∀ c ∈ right, isBlank c = false)
    (h : s ++ blanks = right ++ rest) : ∃ rest', s = right ++ rest' := by
  have hreverse := congrArg List.reverse h
  rw [List.reverse_append, List.reverse_append] at hreverse
  obtain ⟨rest', hrest'⟩ := exists_append_of_unblank (by simpa using hblanks)
    (by simpa using hright) hreverse
  exact ⟨rest'.reverse, by simpa using congrArg List.reverse hrest'⟩

theorem Whole.trim {s : List Char} (h : Whole s) : Whole (trim s) := by
  obtain ⟨front, back, hs, hfront, hback⟩ := exists_eq_append_trim s
  rw [whole_iff] at h ⊢
  refine ⟨fun hplus => h.1 (hs ▸ by simp [hplus]), fun before o t after htrim hor => ?_⟩
  obtain ⟨start, left, right, rest, hbefore, hafter, hword⟩ :=
    h.2 (front ++ before) o t (after ++ back) (by rw [hs, htrim]; simp) hor
  have hunblank : ∀ c ∈ left ++ [o, t] ++ right, isBlank c = false := by
    intro c hc
    rw [← isBlank_asciiLower]
    exact compounds_unblank hword _ (List.mem_map_of_mem hc)
  obtain ⟨start', hstart'⟩ := exists_append_of_unblank hfront
    (fun c hc => hunblank c (by simp [hc])) hbefore
  obtain ⟨rest', hrest'⟩ := exists_append_of_unblank_right hback
    (fun c hc => hunblank c (by simp [hc])) hafter
  exact ⟨start', left, right, rest', hstart', hrest', hword⟩

lemma mem_markLetters_of_mem_compounds {word : List Char} (h : word ∈ compounds) :
    ∀ c ∈ word, c ∈ markLetters := by
  have hall : ∀ word ∈ compounds, word.Forall (· ∈ markLetters) := by decide
  exact List.forall_iff_forall_mem.mp (hall word h)

/-- Where two letters of the marks stand among the images, the text had these two letters. -/
lemma split_pair {s before after : List Char} {o t : Char}
    (h : Images s (before ++ [o, t] ++ after)) (ho : o ∈ markLetters) (ht : t ∈ markLetters) :
    ∃ xs c d ys, s = xs ++ [c, d] ++ ys ∧ asciiLower c = o ∧ asciiLower d = t ∧
      Images xs before ∧ Images ys after := by
  rw [List.append_assoc] at h
  obtain ⟨xs, c, more, rfl, hc, hxs, hmore⟩ := h.split ho
  have hsecond : Images more ([] ++ t :: after) := hmore
  obtain ⟨none, d, ys, rfl, hd, hnone, hys⟩ := hsecond.split ht
  obtain rfl := hnone.eq_nil
  exact ⟨xs, c, d, ys, by simp, hc, hd, hxs, hys⟩

theorem Whole.lower {s : List Char} (h : Whole s) : Whole (lower s) := by
  have himages := images_lower s
  generalize Text.lower s = lowered at himages
  rw [whole_iff] at h ⊢
  refine ⟨fun hplus => ?_, ?_⟩
  · obtain ⟨before, after, rfl⟩ := List.append_of_mem hplus
    obtain ⟨xs, c, ys, rfl, hc, -⟩ := himages.split (by decide)
    rw [asciiLower_eq_plus] at hc
    exact h.1 (by simp [hc])
  · rintro before o t after rfl hor
    obtain ⟨ho, ht⟩ := isOr_iff.mp hor
    have hmarks : 'o' ∈ markLetters ∧ 'r' ∈ markLetters := by decide
    have hlower := himages.isLower
    obtain rfl : 'o' = o := ho ▸ (hlower o (by simp)).asciiLower_eq
    obtain rfl : 'r' = t := ht ▸ (hlower t (by simp)).asciiLower_eq
    obtain ⟨xs, c, d, ys, rfl, hc, hd, hxs, hys⟩ := split_pair himages hmarks.1 hmarks.2
    obtain ⟨start, left, right, rest, rfl, rfl, hword⟩ :=
      h.2 xs c d ys rfl (isOr_iff.mpr ⟨hc, hd⟩)
    -- the letters of the uncut word around the `or` keep their places
    have hletters : ∀ e ∈ left ++ [c, d] ++ right, asciiLower e ∈ markLetters := by
      intro e he
      exact mem_markLetters_of_mem_compounds hword _ (List.mem_map_of_mem he)
    obtain ⟨start', left', rfl, -, hleft⟩ := hxs.append_inv
    obtain ⟨right', rest', rfl, hright, -⟩ := hys.append_inv
    refine ⟨start', left', right', rest', rfl, rfl, ?_⟩
    rw [hleft.eq_map fun e he => hletters e (by simp [he]),
      hright.eq_map fun e he => hletters e (by simp [he])]
    have hfold : ∀ l : List Char, (l.map asciiLower).map asciiLower = l.map asciiLower := fold_fold
    simpa only [List.map_append, List.map_cons, List.map_nil, hfold, ho, ht, hc, hd] using hword

end Keychord.Reading
