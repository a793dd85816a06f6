import Keychord.Proofs.Accelerator.Labels

/-!
# The keys that are kept

An accelerator that was read from a text is inert, or has one key for each alternative of the text.
Such a key could stand in a text as it is: it is in lower case, has no blanks at its ends and no
`+`, and each `or` in it is the middle of an uncut word.
-/
namespace Keychord.Accelerator
open Text Reading

/-- In a whole segment in lower case, an uncut word stands around each `or`, spelled like the
segment itself. -/
lemma exists_compound_of_or {s before after : List Char} (hwhole : Whole s) (hlower : lower s = s)
    (h : s = before ++ "or".toList ++ after) :
    ∃ start left right rest, before = start ++ left ∧ after = right ++ rest ∧
      left ++ "or".toList ++ right ∈ compounds := by
  obtain ⟨start, left, right, rest, hbefore, hafter, hword⟩ :=
    (whole_iff.mp hwhole).2 before 'o' 'r' after h (by decide)
  refine ⟨start, left, right, rest, hbefore, hafter, ?_⟩
  have hpart : s = start ++ (left ++ "or".toList ++ right) ++ rest := by
    rw [h, hbefore, hafter]
    simp
  have hsame : fold (left ++ "or".toList ++ right) = left ++ "or".toList ++ right := by
    have hfold := fold_eq_self hlower
    rw [hpart, fold_append, fold_append] at hfold
    obtain ⟨hfront, -⟩ := List.append_inj hfold (by simp [fold])
    exact (List.append_inj hfront (by simp [fold])).2
  exact hsame ▸ hword

/-- What is read from a text is the inert accelerator, where the text is inert on the platform, or
else has one key for each alternative of the text, in their order: its last segment, trimmed and in
lower case. No key is empty, each is its own lower case and has no blanks at its ends; it has no
`+`, and each `or` in it stands in the middle of one of the uncut words. -/
theorem read_inert_or_one_key_each {text : String} {p : Platform} {a : Accelerator}
    (h : (read text).on p = .ok a) :
    (a = inert ∧ InertOn p text) ∨
      (a.keys = (ofText text.toList).alternatives.map fun alternative =>
          lowercase (String.ofList (trim alternative.key))) ∧
      ∀ key ∈ a.keys, key ≠ "" ∧ lowercase key = key ∧ Trimmed key.toList ∧ '+' ∉ key.toList ∧
        ∀ before after, key.toList = before ++ "or".toList ++ after →
          ∃ start left right rest, before = start ++ left ∧ after = right ++ rest ∧
            left ++ "or".toList ++ right ∈ compounds := by
  obtain ⟨hfault, rfl⟩ := read_on_eq_ok_iff.mp h
  rcases described_cases (p := p) hfault with ⟨hinert, heq⟩ | ⟨hfree, -, hkeys⟩
  · exact .inl ⟨heq, hinert⟩
  · refine .inr ⟨?_, fun key hkey => ?_⟩
    · have hdescribed := (described_eq p text).trans (if_neg hfree)
      rw [hdescribed]
      simp only [lowercase, String.toList_ofList]
      rfl
    · obtain ⟨hshape, hlower⟩ := isKey_of_mem_described hfault hkey (hkeys key hkey)
      refine ⟨hshape.nonempty, hlower, hshape.trimmed, hshape.whole.1, fun before after hor => ?_⟩
      refine exists_compound_of_or hshape.whole ?_ hor
      rw [← toList_lowercase, hlower]

/-- A long spelling inside a key, a sigma at the end of a word and a dotted capital letter. -/
theorem keys_of_compound_and_sigma :
    (read "Alt+ xCmdOrCtrlΣ or\tShift+İ").on .other = .ok ⟨.justAlt, ["xcmdorctrlς", "i\u0307"]⟩ ∧
      lowercase "xcmdorctrlς" = "xcmdorctrlς" ∧ Trimmed "i\u0307".toList ∧
      ∃ start left right rest, "xcmd".toList = start ++ left ∧ "ctrlς".toList = right ++ rest ∧
        left ++ "or".toList ++ right ∈ compounds := by
  have hread : (read "Alt+ xCmdOrCtrlΣ or\tShift+İ").on .other =
      .ok ⟨.justAlt, ["xcmdorctrlς", "i\u0307"]⟩ := by
    decide +kernel
  rcases read_inert_or_one_key_each hread with ⟨hinert, -⟩ | ⟨-, hkeys⟩
  · exact absurd hinert (by decide)
  · obtain ⟨-, hlower, -, -, hword⟩ := hkeys "xcmdorctrlς" (by decide)
    obtain ⟨-, -, htrimmed, -⟩ := hkeys "i\u0307" (by decide)
    exact ⟨hread, hlower, htrimmed, hword "xcmd".toList "ctrlς".toList (by decide)⟩

end Keychord.Accelerator
