import Keychord.Proofs.Reading.LowerCase

/-!
# Gaps that close up

A reading of whole segments is written as a text in which nothing but its gaps can go wrong: where
the two halves of an uncut word meet at one, the word is read there in place of an `or`, and the
gap closes up. The text then has a reading with fewer alternatives. So only a proper reading comes
back with all the alternatives that were written.
-/
namespace Keychord.Reading
open Text

/-- A spelled `or` cannot begin with the second letter of another one. -/
lemma ne_of_isOr {o r c d : Char} (hor : isOr o r = true) (hcd : isOr c d = true) :
    d ≠ o ∧ c ≠ r := by
  obtain ⟨ho, hr⟩ := isOr_iff.mp hor
  obtain ⟨hc, hd⟩ := isOr_iff.mp hcd
  constructor
  · rintro rfl
    simp [ho] at hd
  · rintro rfl
    simp [hr] at hc

/-- Two segments with an `or` between them: another `or` stands in either of them, or it is the
one between them. -/
lemma or_cases {s t before after : List Char} {o r c d : Char} (hor : isOr o r = true)
    (hcd : isOr c d = true) (h : s ++ o :: r :: t = before ++ [c, d] ++ after) :
    (∃ rest, s = before ++ [c, d] ++ rest ∧ after = rest ++ o :: r :: t) ∨
    (before = s ∧ c = o ∧ d = r ∧ after = t) ∨
    (∃ rest, t = rest ++ [c, d] ++ after ∧ before = s ++ o :: r :: rest) := by
  obtain ⟨hdo, hcr⟩ := ne_of_isOr hor hcd
  rw [List.append_assoc, List.append_eq_append_iff] at h
  rcases h with ⟨rest, rfl, hrest⟩ | ⟨rest, rfl, hrest⟩
  · rcases rest with _ | ⟨e, _ | ⟨f, rest⟩⟩
    · simp_all
    · simp_all
    · simp_all
  · rcases rest with _ | ⟨e, _ | ⟨f, rest⟩⟩
    · simp_all
    · simp_all
    · simp_all

/-- The halves of an uncut word meet between whole segments: what they and the `or` between them
make together is whole. -/
lemma Whole.join {s t : List Char} {o r : Char} (hs : Whole s) (ht : Whole t)
    (hor : isOr o r = true) {half : List Char × List Char} (hhalf : half ∈ halves)
    (hleft : half.1 <:+ fold s) (hright : half.2 <+: fold t) : Whole (s ++ o :: r :: t) := by
  obtain ⟨ho, hr⟩ := isOr_iff.mp hor
  rw [whole_iff] at hs ht ⊢
  constructor
  · have hplus : o ≠ '+' ∧ r ≠ '+' := by
      constructor
      · rintro rfl
        exact absurd ho (by decide)
      · rintro rfl
        exact absurd hr (by decide)
    simp [hs.1, ht.1, hplus.1.symm, hplus.2.symm]
  · intro before c d after heq hcd
    rcases or_cases hor hcd heq with
      ⟨rest, hrest, rfl⟩ | ⟨rfl, rfl, rfl, rfl⟩ | ⟨rest, hrest, rfl⟩
    · obtain ⟨start, left, right, rest', hbefore, rfl, hword⟩ := hs.2 before c d rest hrest hcd
      exact ⟨start, left, right, rest' ++ o :: r :: t, hbefore, by simp, hword⟩
    · -- the one between them stands in the middle of the uncut word
      obtain ⟨start, left, rfl, -, hleft⟩ := List.map_eq_append_iff.mp hleft.choose_spec.symm
      obtain ⟨right, rest, rfl, hright, -⟩ := List.map_eq_append_iff.mp hright.choose_spec.symm
      refine ⟨start, left, right, rest, rfl, rfl, ?_⟩
      have hword := compound_of_halves half hhalf
      rw [List.map_append, List.map_append, hleft, hright]
      simpa [ho, hr] using hword
    · obtain ⟨start, left, right, rest', rfl, hafter, hword⟩ := ht.2 rest c d after hrest hcd
      exact ⟨s ++ o :: r :: start, left, right, rest', by simp, hafter, hword⟩

/-- Each gap is spelled `or` and all segments are whole. -/
structure Segmented (r : Reading) : Prop where
  spelled : ∀ gap ∈ r.others, isOr gap.1.1 gap.1.2 = true
  whole : ∀ a ∈ r.alternatives, ∀ s ∈ a.segments, Whole s

lemma Segmented.proper {r : Reading} (h : Segmented r) (hapart : r.alternatives.IsChain Apart) :
    r.Proper :=
  ⟨h.spelled, h.whole, hapart⟩

lemma Segmented.tail {first second : Alternative} {gap : Char × Char}
    {others : List ((Char × Char) × Alternative)}
    (h : Segmented ⟨first, (gap, second) :: others⟩) : Segmented ⟨second, others⟩ where
  spelled g hg := h.spelled g (List.mem_cons_of_mem _ hg)
  whole a ha := h.whole a (List.mem_cons_of_mem first ha)

/-- The two alternatives as one: the key of the first, the `or` and the first segment of the
second are one segment. -/
def joined (o r : Char) (a b : Alternative) : Alternative :=
  let c := b.precedeText (a.key ++ [o, r])
  ⟨a.names ++ c.names, c.key⟩

lemma segments_joined (o r : Char) (a b : Alternative) :
    (joined o r a b).segments =
      a.names ++ (a.key ++ o :: r :: b.opening) :: b.segments.tail := by
  obtain ⟨names, key⟩ := b
  cases names <;>
    simp [joined, Alternative.segments, Alternative.precedeText, Alternative.opening]

@[simp] lemma render_joined (o r : Char) (a b : Alternative) :
    (joined o r a b).render = a.render ++ o :: r :: b.render := by
  have h := Alternative.render_precedeText (a.key ++ [o, r]) b
  simp only [Alternative.render] at h ⊢
  rw [joined, List.flatMap_append, List.append_assoc, h]
  simp

lemma Segmented.join {first second : Alternative} {o r : Char}
    {others : List ((Char × Char) × Alternative)}
    (h : Segmented ⟨first, ((o, r), second) :: others⟩) (hmeet : ¬ Apart first second) :
    Segmented ⟨joined o r first second, others⟩ where
  spelled := h.tail.spelled
  whole a ha s hs := by
    have hfirst := h.whole first (by simp [alternatives])
    have hsecond := h.whole second (by simp [alternatives])
    rcases List.mem_cons.mp ha with rfl | ha
    · rw [segments_joined, List.mem_append, List.mem_cons] at hs
      rcases hs with hs | rfl | hs
      · exact hfirst s (List.mem_append_left _ hs)
      · simp only [Apart, not_forall, not_not] at hmeet
        obtain ⟨half, hhalf, hleft, hright⟩ := hmeet
        refine (hfirst first.key (by simp [Alternative.segments])).join
          (hsecond second.opening (by rw [segments_eq]; exact List.mem_cons_self)) ?_ hhalf hleft
          hright
        exact h.spelled _ List.mem_cons_self
      · exact hsecond s (List.mem_of_mem_tail hs)
    · exact h.whole a (by simp_all [alternatives]) s hs

/-- Where no halves meet at the first gap, the first alternative is read as it was written,
whatever is read after it. -/
lemma ofText_render_of_apart {first second : Alternative} {o r : Char}
    {others : List ((Char × Char) × Alternative)}
    (h : Segmented ⟨first, ((o, r), second) :: others⟩) (hapart : Apart first second) :
    (ofText (render ⟨first, ((o, r), second) :: others⟩)).alternatives =
      first :: (ofText (render ⟨second, others⟩)).alternatives := by
  have hor : isOr o r = true := h.spelled _ List.mem_cons_self
  have hreads := ((reads_ofText (render ⟨second, others⟩)).or hor).alternative
    (h.whole first (by simp [alternatives])) (seam_of_apart h.spelled hapart) rfl
  have htext := ofText_eq hreads
  simp only [render, List.flatMap_cons, precede] at htext ⊢
  rw [List.cons_append, List.cons_append, htext]
  rfl

/-- If the halves of an uncut word meet at some gap, an alternative is lost. -/
theorem length_alternatives_ofText_lt {r : Reading} (h : Segmented r)
    (hmeet : ¬ r.alternatives.IsChain Apart) :
    (ofText r.render).alternatives.length < r.alternatives.length := by
  obtain ⟨first, others⟩ := r
  induction others generalizing first with
  | nil => exact absurd (List.isChain_singleton _) hmeet
  | cons gap others ih =>
      obtain ⟨⟨o, t⟩, second⟩ := gap
      by_cases hapart : Apart first second
      · rw [ofText_render_of_apart h hapart]
        refine Nat.succ_lt_succ (ih second h.tail fun hchain => hmeet ?_)
        exact List.isChain_cons_cons.mpr ⟨hapart, hchain⟩
      · have hjoin := h.join hapart
        have hrender : render ⟨joined o t first second, others⟩ =
            render ⟨first, ((o, t), second) :: others⟩ := by
          simp [render]
        have hlength : (ofText (render ⟨joined o t first second, others⟩)).alternatives.length ≤
            others.length + 1 := by
          by_cases hchain : List.IsChain Apart (alternatives ⟨joined o t first second, others⟩)
          · rw [(hjoin.proper hchain).ofText_render]
            simp [alternatives]
          · have hlt := ih _ hjoin hchain
            simp only [alternatives, List.length_cons, List.length_map] at hlt ⊢
            omega
        rw [← hrender]
        simp only [alternatives, List.length_cons, List.length_map] at hlength ⊢
        omega

end Keychord.Reading
