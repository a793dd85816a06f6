import Keychord.Proofs.Accelerator.Labels
import Keychord.Proofs.Accelerator.Padding

/-!
# Two shortcuts in one text

Two texts with an `or` between blanks in the middle have the alternatives of both. So the whole is
malformed where the first text is, or else the second. Otherwise it has the modifiers of the first
text, and is inert if that is, and the keys of both: of the second text only the keys are left,
which are those that it has on Apple's platforms, where no text is inert that is not blank. And the
platform is asked for as it is by the first text.
-/
namespace Keychord

namespace Inquiry

variable {α β : Type}

lemma Settled.asks_eq {q : Inquiry α} (h : q.Settled) (p : Platform) : q.asks p = 0 := by
  obtain ⟨a, rfl⟩ := h
  rfl

lemma AsksOnce.asks_eq {q : Inquiry α} (h : q.AsksOnce) (p : Platform) : q.asks p = 1 := by
  obtain ⟨f, rfl⟩ := h
  rfl

end Inquiry

namespace Accelerator
open Text Reading

/-- Texts that need the platform alike ask for it alike. -/
lemma asks_eq_of_needsPlatform_iff {s t : String} (h : NeedsPlatform s ↔ NeedsPlatform t) :
    (∀ p, (read s).asks p = (read t).asks p) ∧
      ∀ answers : ℕ → Platform, ((read s).run answers).2 = ((read t).run answers).2 := by
  by_cases hs : NeedsPlatform s
  · have ht := h.mp hs
    refine ⟨fun p => ?_, fun answers => ?_⟩
    · rw [(read_asksOnce hs).asks_eq, (read_asksOnce ht).asks_eq]
    · rw [(read_asksOnce hs).run_eq, (read_asksOnce ht).run_eq]
  · have ht : ¬ NeedsPlatform t := fun ht => hs (h.mpr ht)
    refine ⟨fun p => ?_, fun answers => ?_⟩
    · rw [(read_settled hs).asks_eq, (read_settled ht).asks_eq]
    · rw [(read_settled hs).run_eq, (read_settled ht).run_eq]

/-- One text has the alternatives of two others, neither of which is blank. -/
structure Joins (u s t : String) : Prop where
  left_filled : allBlank s.toList = false
  right_filled : allBlank t.toList = false
  filled : allBlank u.toList = false
  reading : ∃ gap, ofText u.toList = (ofText s.toList).append gap (ofText t.toList)

namespace Joins

variable {u s t : String}

lemma first_eq (h : Joins u s t) : (ofText u.toList).first = (ofText s.toList).first := by
  obtain ⟨gap, hreading⟩ := h.reading
  rw [hreading]
  rfl

lemma alternatives_eq (h : Joins u s t) : (ofText u.toList).alternatives =
    (ofText s.toList).alternatives ++ (ofText t.toList).alternatives := by
  obtain ⟨gap, hreading⟩ := h.reading
  rw [hreading, alternatives_append]

lemma namesOption_iff (h : Joins u s t) : NamesOption u ↔ NamesOption s := by
  rw [NamesOption, h.first_eq, NamesOption]

lemma needsPlatform_iff (h : Joins u s t) : NeedsPlatform u ↔ NeedsPlatform s := by
  constructor
  · rintro ⟨-, hkey, hword⟩
    rw [h.first_eq] at hkey hword
    exact ⟨h.left_filled, hkey, hword⟩
  · rintro ⟨-, hkey, hword⟩
    rw [← h.first_eq] at hkey hword
    exact ⟨h.filled, hkey, hword⟩

/-- The faults of the first text come first. -/
lemma fault?_eq (h : Joins u s t) : fault? u = (fault? s).or (fault? t) := by
  simp only [fault?, h.left_filled, h.right_filled, h.filled, Bool.false_eq_true, if_false,
    h.alternatives_eq, List.find?_append]
  cases (ofText s.toList).alternatives.find? (allBlank ·.key) <;> rfl

lemma inertOn_iff (h : Joins u s t) {p : Platform} : InertOn p u ↔ InertOn p s := by
  rw [InertOn, InertOn, h.filled, h.left_filled, h.namesOption_iff]

/-- What the first text describes, with the keys of the second one besides. -/
lemma described_eq (h : Joins u s t) (hfault : fault? s = none) (p : Platform) :
    described p u =
      if described p s = inert then inert
      else ⟨(described p s).modifiers, (described p s).keys ++ (described .apple t).keys⟩ := by
  rcases described_cases (p := p) hfault with ⟨hinert, heq⟩ | ⟨hfree, heq, -⟩
  · have hu : described p u = inert :=
      (Accelerator.described_eq p u).trans (if_pos (h.inertOn_iff.mpr hinert))
    rw [hu, if_pos heq]
  · have hne : described p s ≠ inert := by
      intro hsame
      rw [hsame] at heq
      contradiction
    have hright : ¬ InertOn .apple t := by simp [InertOn, h.right_filled, Platform.isApple]
    have hs := (Accelerator.described_eq p s).trans (if_neg hfree)
    have ht := (Accelerator.described_eq .apple t).trans (if_neg hright)
    have hu := (Accelerator.described_eq p u).trans (if_neg fun hu => hfree (h.inertOn_iff.mp hu))
    rw [if_neg hne, hu, hs, ht, h.first_eq, h.alternatives_eq, List.map_append]

lemma read_of_left_fault (h : Joins u s t) {p : Platform} {fault : InvalidAccelerator}
    (hs : (read s).on p = .error fault) : (read u).on p = .error fault := by
  rw [read_on_eq_error_iff] at hs ⊢
  rw [h.fault?_eq, hs, Option.some_or]

lemma read_of_right_fault (h : Joins u s t) {p : Platform} {a : Accelerator}
    {fault : InvalidAccelerator} (hs : (read s).on p = .ok a)
    (ht : (read t).on p = .error fault) : (read u).on p = .error fault := by
  rw [read_on_eq_error_iff] at ht ⊢
  rw [h.fault?_eq, (read_on_eq_ok_iff.mp hs).1, Option.none_or, ht]

lemma read_of_ok (h : Joins u s t) {p : Platform} {a b : Accelerator}
    (hs : (read s).on p = .ok a) (ht : (read t).on p = .ok b) :
    ∃ c, (read t).on .apple = .ok c ∧
      (read u).on p = .ok (if a = inert then inert else ⟨a.modifiers, a.keys ++ c.keys⟩) := by
  obtain ⟨hleft, rfl⟩ := read_on_eq_ok_iff.mp hs
  obtain ⟨hright, -⟩ := read_on_eq_ok_iff.mp ht
  refine ⟨_, read_on_eq_ok_iff.mpr ⟨hright, rfl⟩, read_on_eq_ok_iff.mpr ⟨?_, ?_⟩⟩
  · rw [h.fault?_eq, hleft, hright, Option.or_none]
  · exact h.described_eq hleft p

end Joins

/-- More keys take no event away. -/
lemma isTriggeredBy_more_keys {a : Accelerator} {e : KeyEvent} (h : a.isTriggeredBy e = true)
    (keys : List String) :
    (if a = inert then inert else ⟨a.modifiers, a.keys ++ keys⟩ : Accelerator).isTriggeredBy e =
      true := by
  obtain ⟨hheld, key, hkey, hne, hlabel⟩ := isTriggeredBy_iff.mp h
  have hfree : a ≠ inert := by
    rintro rfl
    exact hne (by simpa [inert] using hkey)
  rw [if_neg hfree]
  exact isTriggeredBy_iff.mpr ⟨hheld, key, List.mem_append_left keys hkey, hne, hlabel⟩

/-- The texts with the blanks around the `or` that is put between them. -/
lemma joins_or {s t : String} (hs : allBlank s.toList = false) (ht : allBlank t.toList = false) :
    Joins (s ++ " or " ++ t) (String.ofList (s.toList ++ [' '])) (String.ofList (' ' :: t.toList))
    where
  left_filled := by
    simp only [allBlank] at hs
    simp [allBlank, hs]
  right_filled := by
    simp only [allBlank] at ht
    simp [allBlank, ht]
  filled := by
    simp only [allBlank] at hs
    simp [allBlank, hs]
  reading := by
    have htext : (s ++ " or " ++ t).toList = s.toList ++ " or ".toList ++ t.toList := by
      simp only [String.toList_append]
    exact ⟨('o', 'r'), by
      rw [htext, ofText_append_or_append, String.toList_ofList, String.toList_ofList]⟩

lemma read_blank_behind (s : String) : read (String.ofList (s.toList ++ [' '])) = read s := by
  have hnone : ∀ c ∈ ([] : List Char), isBlank c = true := List.forall_mem_nil _
  have hspace : ∀ c ∈ [' '], isBlank c = true := List.forall_mem_singleton.mpr (by decide)
  have h := read_blanks hnone s.toList hspace
  rwa [List.nil_append, String.ofList_toList] at h

lemma read_blank_in_front (s : String) : read (String.ofList (' ' :: s.toList)) = read s := by
  have hnone : ∀ c ∈ ([] : List Char), isBlank c = true := List.forall_mem_nil _
  have hspace : ∀ c ∈ [' '], isBlank c = true := List.forall_mem_singleton.mpr (by decide)
  have h := read_blanks hspace s.toList hnone
  rwa [List.append_nil, String.ofList_toList] at h

/-- Let two texts that are not blank be put together with an `or` between blanks. The whole is
malformed where the first one is, or else the second. Otherwise it is inert if the first one is, and
else has the modifiers of the first and the keys of both, those of the second text as they are on
Apple's platforms. It asks for the platform as often as the first one alone, and is triggered by
every event that triggers this one. -/
theorem read_joined {s t : String} (hs : allBlank s.toList = false)
    (ht : allBlank t.toList = false) (p : Platform) :
    (∀ fault, (read s).on p = .error fault → (read (s ++ " or " ++ t)).on p = .error fault) ∧
    (∀ a fault, (read s).on p = .ok a → (read t).on p = .error fault →
      (read (s ++ " or " ++ t)).on p = .error fault) ∧
    (∀ a b, (read s).on p = .ok a → (read t).on p = .ok b →
      ∃ c, (read t).on .apple = .ok c ∧
        (read (s ++ " or " ++ t)).on p =
          .ok (if a = inert then inert else ⟨a.modifiers, a.keys ++ c.keys⟩) ∧
        (read (s ++ " or " ++ t)).asks p = (read s).asks p ∧
        (∀ answers : ℕ → Platform,
          ((read (s ++ " or " ++ t)).run answers).2 = ((read s).run answers).2) ∧
        ∀ e : KeyEvent, (e.triggers s).on p = .ok true →
          (e.triggers (s ++ " or " ++ t)).on p = .ok true) := by
  have hjoins := joins_or hs ht
  have hleft := read_blank_behind s
  have hright := read_blank_in_front t
  refine ⟨fun fault hfault => ?_, fun a fault ha hfault => ?_, fun a b ha hb => ?_⟩
  · rw [← hleft] at hfault
    exact hjoins.read_of_left_fault hfault
  · rw [← hleft] at ha
    rw [← hright] at hfault
    exact hjoins.read_of_right_fault ha hfault
  · obtain ⟨c, hc, hread⟩ := hjoins.read_of_ok (hleft.symm ▸ ha) (hright.symm ▸ hb)
    obtain ⟨hasks, hrun⟩ := asks_eq_of_needsPlatform_iff hjoins.needsPlatform_iff
    rw [hright] at hc
    rw [hleft] at hasks hrun
    refine ⟨c, hc, hread, hasks p, hrun, fun e he => ?_⟩
    rw [KeyEvent.triggers_on_of_read ha, Except.ok.injEq] at he
    rw [KeyEvent.triggers_on_of_read hread, isTriggeredBy_more_keys he]

/-- Modifiers that are left out, a text that is inert outside Apple's platforms, and a fault behind
text that would be one word without the blanks. -/
theorem read_joined_halves_and_option :
    ((read "Shift+cmd").on .other = .ok ⟨.justShift, ["cmd"]⟩ ∧
      (read "ctrl+alt+x").on .other = .ok ⟨{ ctrl := true, alt := true }, ["x"]⟩ ∧
      ∃ c, (read "ctrl+alt+x").on .apple = .ok c ∧
        (read "Shift+cmd or ctrl+alt+x").on .other = .ok ⟨.justShift, "cmd" :: c.keys⟩) ∧
    ((read "Option+F").on .other = .ok inert ∧
      (read "Option+F or G").on .other = .ok inert) ∧
    ((read "cmd").on .apple = .ok ⟨.empty, ["cmd"]⟩ ∧
      (read "ctrl+").on .apple = .error ⟨"ctrl+"⟩ ∧
      (read "cmd or ctrl+").on .apple = .error ⟨"ctrl+"⟩) := by
  have hshift : (read "Shift+cmd").on .other = .ok ⟨.justShift, ["cmd"]⟩ := by decide +kernel
  have hx : (read "ctrl+alt+x").on .other = .ok ⟨{ ctrl := true, alt := true }, ["x"]⟩ := by
    decide +kernel
  have hoption : (read "Option+F").on .other = .ok inert := by decide +kernel
  have hg : (read "G").on .other = .ok ⟨.empty, ["g"]⟩ := by decide +kernel
  have hcmd : (read "cmd").on .apple = .ok ⟨.empty, ["cmd"]⟩ := by decide +kernel
  have hctrl : (read "ctrl+").on .apple = .error ⟨"ctrl+"⟩ := by decide +kernel
  obtain ⟨-, -, hboth⟩ := read_joined (s := "Shift+cmd") (t := "ctrl+alt+x") (by decide)
    (by decide) .other
  obtain ⟨-, -, hinert⟩ := read_joined (s := "Option+F") (t := "G") (by decide) (by decide) .other
  obtain ⟨-, hfault, -⟩ := read_joined (s := "cmd") (t := "ctrl+") (by decide) (by decide) .apple
  obtain ⟨c, hc, hread, -⟩ := hboth _ _ hshift hx
  obtain ⟨d, -, hsame, -⟩ := hinert _ _ hoption hg
  exact ⟨⟨hshift, hx, c, hc, hread⟩, ⟨hoption, hsame⟩, hcmd, hctrl, hfault _ _ hcmd hctrl⟩

end Accelerator
end Keychord
