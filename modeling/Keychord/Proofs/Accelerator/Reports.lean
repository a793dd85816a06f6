import Keychord.Proofs.Accelerator.Faults
import Keychord.Proofs.Accelerator.Padding
import Keychord.Proofs.Accelerator.TwoPhase
import Keychord.Proofs.Reading.Places

/-!
# What is reported of a malformed text

A text that is not blank is malformed if one of its alternatives has a blank key. Reported is the
first of these, as it stands between its marks in the text, without the blanks at its ends. That is
enough to see the fault: an alternative keeps no part of an uncut word that reaches further, so what
is reported is read as one alternative again, and is malformed for the same reason. Only where
nothing but blanks stands between the marks is the report empty.
-/
namespace Keychord.Accelerator
open Text Reading

/-- Between `before` and `after` stands the first alternative of the text that has a blank key. -/
structure FirstKeyless (text before part after : List Char) : Prop extends
    IsAlternative text before part after where
  keyless : allBlank (TwoPhase.key part) = true
  first : ∀ before' part' after', IsAlternative text before' part' after' →
    before'.length < before.length → allBlank (TwoPhase.key part') = false

lemma allBlank_key_eq {text before after : List Char} {a : Alternative}
    (h : Placed (ofText text) before a after) :
    allBlank (TwoPhase.key a.render) = allBlank a.key := by
  rw [TwoPhase.key_render h.mem]

/-- The alternative that a reading finds first is the first one in the text. -/
lemma exists_firstKeyless {text : List Char} {a : Alternative}
    (h : (ofText text).alternatives.find? (allBlank ·.key) = some a) :
    ∃ before after, FirstKeyless text before a.render after := by
  obtain ⟨before, after, hplaced, hfirst⟩ := exists_placed_of_find? h
  have hkey : allBlank a.key = true := by simpa using List.find?_some h
  refine ⟨before, after, isAlternative_iff.mpr ⟨a, hplaced, rfl⟩, ?_, ?_⟩
  · rw [allBlank_key_eq hplaced, hkey]
  · intro before' part' after' halternative hlt
    obtain ⟨b, hplaced', rfl⟩ := isAlternative_iff.mp halternative
    rw [allBlank_key_eq hplaced']
    exact hfirst before' b after' hplaced' hlt

/-- A text has a fault exactly if it is not blank and has an alternative with a blank key. -/
lemma exists_fault?_iff (text : String) :
    (∃ fault, fault? text = some fault) ↔
      allBlank text.toList = false ∧ ∃ before part after,
        IsAlternative text.toList before part after ∧ allBlank (TwoPhase.key part) = true := by
  rw [fault?]
  cases hblank : allBlank text.toList with
  | true => simp
  | false =>
      simp only [Bool.false_eq_true, if_false, true_and, Option.map_eq_some_iff]
      constructor
      · rintro ⟨fault, a, hfind, -⟩
        obtain ⟨before, after, h⟩ := exists_firstKeyless hfind
        exact ⟨before, a.render, after, h.toIsAlternative, h.keyless⟩
      · rintro ⟨before, part, after, halternative, hkey⟩
        obtain ⟨a, hplaced, rfl⟩ := isAlternative_iff.mp halternative
        rw [allBlank_key_eq hplaced] at hkey
        have hsome : ((ofText text.toList).alternatives.find? (allBlank ·.key)).isSome = true :=
          List.find?_isSome.mpr ⟨a, hplaced.mem, hkey⟩
        obtain ⟨b, hfind⟩ := Option.isSome_iff_exists.mp hsome
        exact ⟨_, b, hfind, rfl⟩

/-- On its own, an alternative of a text is read as this one alternative. -/
lemma ofText_render_of_mem {text : List Char} {a : Alternative}
    (ha : a ∈ (ofText text).alternatives) : ofText a.render = ⟨a, []⟩ := by
  have hproper : Proper ⟨a, []⟩ := by
    refine ⟨by simp, fun b hb => ?_, List.isChain_singleton a⟩
    obtain rfl : b = a := by simpa [alternatives] using hb
    exact (proper_ofText text).whole b ha
  have hrender : render ⟨a, []⟩ = a.render := by simp [render]
  rw [← hrender, hproper.ofText_render]

/-- What is reported of an alternative is malformed by itself, unless it is empty. -/
lemma read_report {text : List Char} {a : Alternative}
    (ha : a ∈ (ofText text).alternatives) (hkey : allBlank a.key = true)
    (hfilled : allBlank a.render = false) (q : Platform) :
    (read (String.ofList (trim a.render))).on q = .error ⟨String.ofList (trim a.render)⟩ := by
  have hfind : (ofText a.render).alternatives.find? (allBlank ·.key) = some a := by
    rw [ofText_render_of_mem ha]
    simp [alternatives, hkey]
  rw [read_trim, read_on_eq_error_iff, fault?, String.toList_ofList, hfilled,
    if_neg Bool.false_ne_true, hfind, Option.map_some]

/-- A text is malformed, on any platform, exactly if it is not blank and one of its alternatives has
a blank last segment. Reported is the first of them: what stands in the text between the marks
before and behind it, or the ends of the text, without the blanks at its own ends. If that is not
empty, reading it alone gives the same fault, on any platform. It is empty exactly if the
alternative is blank. -/
theorem report_is_first_keyless_alternative (text : String) (p : Platform) :
    ((∃ fault, (read text).on p = .error fault) ↔
      allBlank text.toList = false ∧ ∃ before part after,
        IsAlternative text.toList before part after ∧ allBlank (TwoPhase.key part) = true) ∧
    ∀ fault, (read text).on p = .error fault →
      ∃ before part after, FirstKeyless text.toList before part after ∧
        fault.text = String.ofList (trim part) ∧
        (fault.text ≠ "" → ∀ q, (read fault.text).on q = .error fault) ∧
        (fault.text = "" ↔ allBlank part = true) := by
  constructor
  · simp only [read_on_eq_error_iff, exists_fault?_iff]
  · intro fault hread
    rw [read_on_eq_error_iff, fault?] at hread
    split_ifs at hread
    obtain ⟨a, hfind, rfl⟩ := Option.map_eq_some_iff.mp hread
    obtain ⟨before, after, hfirst⟩ := exists_firstKeyless hfind
    have hempty : String.ofList (trim a.render) = "" ↔ allBlank a.render = true := by
      rw [← trim_eq_nil_iff, String.ofList_eq_empty_iff]
    refine ⟨before, a.render, after, hfirst, rfl, fun hne => ?_, hempty⟩
    have hfilled : allBlank a.render = false := by
      rwa [← Bool.not_eq_true, ← hempty]
    have hkey : allBlank a.key = true := by simpa using List.find?_some hfind
    exact read_report (List.mem_of_find?_eq_some hfind) hkey hfilled

/-- A report that begins with an uncut word in its own spelling, and one of an `or` at the end. -/
theorem report_of_dangling_plus_and_or :
    ((read "Enter OR\t CMDORCTRL + Shift+  orΣ+").on .other =
        .error ⟨"CMDORCTRL + Shift+"⟩ ∧
      ∀ q, (read "CMDORCTRL + Shift+").on q = .error ⟨"CMDORCTRL + Shift+"⟩) ∧
    ((read "EnterOr").on .apple = .error ⟨""⟩ ∧
      ∃ before part after, FirstKeyless "EnterOr".toList before part after ∧
        allBlank part = true) := by
  have hplus : (read "Enter OR\t CMDORCTRL + Shift+  orΣ+").on .other =
      .error ⟨"CMDORCTRL + Shift+"⟩ := by
    decide +kernel
  have hor : (read "EnterOr").on .apple = .error ⟨""⟩ := by decide +kernel
  obtain ⟨-, -, -, -, -, hagain, -⟩ :=
    (report_is_first_keyless_alternative _ _).2 _ hplus
  obtain ⟨before, part, after, hfirst, -, -, hblank⟩ :=
    (report_is_first_keyless_alternative _ _).2 _ hor
  exact ⟨⟨hplus, hagain (by decide)⟩, hor, before, part, after, hfirst, hblank.mp rfl⟩

end Keychord.Accelerator
