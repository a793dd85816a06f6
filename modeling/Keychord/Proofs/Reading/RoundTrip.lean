import Keychord.Proofs.Reading.Segments
import Mathlib.Data.List.Chain

/-!
# Readings and texts

A text has exactly one proper reading: its segments are whole, each gap is spelled `or`, and at
no gap do the two halves of an uncut word meet. Writing a proper reading down and reading it
again gives it back, and so does reading any text and writing the reading down.
-/
namespace Keychord

/-- The first segment of an alternative, which follows the gap before it. -/
def Alternative.opening (a : Alternative) : List Char :=
  match a.names with
  | [] => a.key
  | name :: _ => name

namespace Reading
open Text

/-- What stands before and after the `or` in the middle of each uncut word. -/
def halves : List (List Char × List Char) :=
  [("command".toList, "control".toList), ("cmd".toList, "ctrl".toList)]

/-- The end of one alternative and the beginning of the next are not the halves of an uncut
word, the case of ASCII letters aside. -/
def Apart (a b : Alternative) : Prop :=
  ∀ half ∈ halves, ¬ (half.1 <:+ a.key.map asciiLower ∧ half.2 <+: b.opening.map asciiLower)

instance : DecidableRel Apart := fun _ _ => inferInstanceAs (Decidable (∀ half ∈ halves, _))

/-- Written down, the reading has no marks but those that it says. -/
structure Proper (r : Reading) : Prop where
  spelled : ∀ gap ∈ r.others, isOr gap.1.1 gap.1.2 = true
  whole : ∀ a ∈ r.alternatives, ∀ s ∈ a.segments, Whole s
  apart : r.alternatives.IsChain Apart

instance (r : Reading) : Decidable r.Proper :=
  decidable_of_iff ((∀ gap ∈ r.others, isOr gap.1.1 gap.1.2 = true) ∧
      (∀ a ∈ r.alternatives, ∀ s ∈ a.segments, Whole s) ∧ r.alternatives.IsChain Apart)
    ⟨fun h => ⟨h.1, h.2.1, h.2.2⟩, fun h => ⟨h.spelled, h.whole, h.apart⟩⟩

lemma prefix_or_beyond {α : Type*} {w a b : List α} (h : w <+: a ++ b) :
    w <+: a ∨ ∃ t, w = a ++ t ∧ t ≠ [] ∧ t <+: b := by
  rcases List.prefix_or_prefix_of_prefix h (List.prefix_append a b) with hw | ⟨t, rfl⟩
  · exact .inl hw
  · by_cases ht : t = []
    · exact .inl (by simp [ht])
    · exact .inr ⟨t, rfl, ht, (List.prefix_append_right_inj a).mp h⟩

lemma compoundLength?_append {s rest : List Char}
    (h : ∀ word ∈ compounds, beginsWith word (s ++ rest) = true → beginsWith word s = true) :
    compoundLength? (s ++ rest) = compoundLength? s := by
  cases hs : compoundLength? s with
  | some m => exact compoundLength?_mono (List.prefix_append s rest) hs
  | none =>
      rw [compoundLength?_eq_none_iff] at hs ⊢
      intro word hword
      by_contra hbegins
      rw [Bool.not_eq_false] at hbegins
      exact absurd (h word hword hbegins) (by simp [hs word hword])

lemma seam_nil (s : List Char) : Seam s [] where
  compound suffix _ _ := by rw [List.append_nil]
  or d more h := by simp at h

lemma seam_plus (s rest : List Char) : Seam s ('+' :: rest) where
  compound suffix _ _ := by
    refine compoundLength?_append fun word hword hbegins => ?_
    rw [beginsWith_iff, List.map_append, List.map_cons] at hbegins
    rcases prefix_or_beyond hbegins with h | ⟨t, rfl, hne, ht⟩
    · exact (beginsWith_iff word suffix).mpr h
    · cases t with
      | nil => exact absurd rfl hne
      | cons d t =>
          obtain rfl : d = '+' := (List.cons_prefix_cons.mp ht).1
          exact absurd (List.mem_append_right _ List.mem_cons_self)
            (plus_not_mem_compounds _ hword)
  or d more h := by
    obtain rfl : '+' = d := by simpa using congrArg List.head? h
    decide

/-- An uncut word with an `or` behind the front part falls into its halves there. -/
lemma halves_of_compound : ∀ word ∈ compounds, ∀ k < word.length,
    (word.drop k <+: "or".toList ∨ "or".toList <+: word.drop k) →
      (word.take k, (word.drop k).drop 2) ∈ halves := by
  decide

lemma isOr_iff {o t : Char} : isOr o t = true ↔ asciiLower o = 'o' ∧ asciiLower t = 'r' := by
  simp [isOr]

lemma seam_or {s rest : List Char} {o t : Char} (hor : isOr o t = true)
    (happ : ∀ half ∈ halves,
      ¬ (half.1 <:+ s.map asciiLower ∧ half.2 <+: rest.map asciiLower)) :
    Seam s (o :: t :: rest) where
  compound suffix hsuffix _ := by
    obtain ⟨ho, ht⟩ := isOr_iff.mp hor
    refine compoundLength?_append fun word hword hbegins => ?_
    rw [beginsWith_iff, List.map_append, List.map_cons, List.map_cons, ho, ht] at hbegins
    rcases prefix_or_beyond hbegins with h | ⟨w, hw, hwne, hrest⟩
    · exact (beginsWith_iff word suffix).mpr h
    · have hdrop : word.drop suffix.length = w := by simp [hw]
      have htake : word.take suffix.length = suffix.map asciiLower := by simp [hw]
      have hlen : suffix.length < word.length := by
        simpa [hw] using List.length_pos_of_ne_nil hwne
      have hmeet := List.prefix_or_prefix_of_prefix hrest (List.prefix_append ['o', 'r'] _)
      have hhalf := halves_of_compound word hword suffix.length hlen (hdrop.symm ▸ hmeet)
      rw [hdrop, htake] at hhalf
      exact absurd ⟨hsuffix.map asciiLower, hrest.drop 2⟩ (happ _ hhalf)
  or d more h := by
    obtain ⟨ho, -⟩ := isOr_iff.mp hor
    obtain rfl : o = d := by simpa using congrArg List.head? h
    rw [ho]
    decide

/-- The text is over, or goes on with a mark. -/
inductive AtMark : List Char → Prop
  | nil : AtMark []
  | plus (rest : List Char) : AtMark ('+' :: rest)
  | or {o t : Char} (spelled : isOr o t = true) (rest : List Char) : AtMark (o :: t :: rest)

/-- The second half of an uncut word does not reach across a mark. -/
lemma half_prefix_of_atMark {half : List Char × List Char} (hhalf : half ∈ halves)
    {s rest : List Char} (hrest : AtMark rest)
    (h : half.2 <+: (s ++ rest).map asciiLower) : half.2 <+: s.map asciiLower := by
  have hplus : ∀ half ∈ halves, '+' ∉ half.2 := by decide
  have hor : ∀ half ∈ halves, ∀ k < half.2.length,
      ¬ (half.2.drop k <+: "or".toList ∨ "or".toList <+: half.2.drop k) := by decide
  rw [List.map_append] at h
  rcases prefix_or_beyond h with h | ⟨w, hw, hwne, hprefix⟩
  · exact h
  · have hdrop : half.2.drop s.length = w := by simp [hw]
    have hlen : s.length < half.2.length := by
      simpa [hw] using List.length_pos_of_ne_nil hwne
    cases hrest with
    | nil => exact absurd (List.prefix_nil.mp hprefix) hwne
    | plus rest =>
        cases w with
        | nil => exact absurd rfl hwne
        | cons d w =>
            obtain rfl : d = '+' := (List.cons_prefix_cons.mp hprefix).1
            exact absurd (hw ▸ List.mem_append_right _ List.mem_cons_self) (hplus half hhalf)
    | or spelled rest =>
        obtain ⟨ho, ht⟩ := isOr_iff.mp spelled
        rw [List.map_cons, List.map_cons, ho, ht] at hprefix
        have hmeet := List.prefix_or_prefix_of_prefix hprefix (List.prefix_append ['o', 'r'] _)
        exact absurd (hdrop.symm ▸ hmeet) (hor half hhalf s.length hlen)

lemma Alternative.render_eq_opening (a : Alternative) (rest : List Char) (h : AtMark rest) :
    ∃ more, AtMark more ∧ a.render ++ rest = a.opening ++ more := by
  obtain ⟨names, key⟩ := a
  cases names with
  | nil => exact ⟨rest, h, by simp [Alternative.render, Alternative.opening]⟩
  | cons name names =>
      refine ⟨'+' :: (Alternative.render ⟨names, key⟩ ++ rest), .plus _, ?_⟩
      simp [Alternative.render, Alternative.opening]

/-- An alternative of whole segments is read as it was written. -/
lemma Reads.alternative {a : Alternative} {rest : List Char} {r : Reading}
    (hwhole : ∀ s ∈ a.segments, Whole s) (hseam : Seam a.key rest) (hr : Reads 0 rest r)
    (hfirst : r.first = .empty) : Reads 0 (a.render ++ rest) ⟨a, r.others⟩ := by
  obtain ⟨names, key⟩ := a
  induction names with
  | nil =>
      have hkey := wholeFrom_zero.mpr (hwhole key (by simp [Alternative.segments]))
      have h := hr.append hkey (.zero key) (Nat.zero_le _) hseam
      simpa [Alternative.render, precede, hfirst, Alternative.precedeText,
        Alternative.empty] using h
  | cons name names ih =>
      have hname := wholeFrom_zero.mpr (hwhole name (by simp [Alternative.segments]))
      have htail := ih (fun s hs => hwhole s (List.mem_cons_of_mem name hs)) hseam
      have h := htail.plus.append hname (.zero name) (Nat.zero_le _) (seam_plus name _)
      simpa [Alternative.render, precede, Alternative.precedePlus,
        Alternative.precedeText] using h

/-- What is written for all alternatives but the first. -/
def renderOthers (others : List ((Char × Char) × Alternative)) : List Char :=
  others.flatMap fun gap => gap.1.1 :: gap.1.2 :: gap.2.render

lemma render_eq_append (r : Reading) : r.render = r.first.render ++ renderOthers r.others :=
  rfl

/-- Where no halves meet, the scanner can go on behind a gap as if the text began there. -/
lemma seam_of_apart {first second : Alternative} {o t : Char}
    {others : List ((Char × Char) × Alternative)}
    (hspelled : ∀ gap ∈ ((o, t), second) :: others, isOr gap.1.1 gap.1.2 = true)
    (hapart : Apart first second) : Seam first.key (o :: t :: render ⟨second, others⟩) := by
  have hmark : AtMark (renderOthers others) := by
    cases others with
    | nil => exact .nil
    | cons gap others => exact .or (hspelled gap (by simp)) _
  refine seam_or (hspelled _ List.mem_cons_self) fun half hhalf hmeet => ?_
  obtain ⟨more, hmore, heq⟩ := Alternative.render_eq_opening second _ hmark
  rw [render_eq_append, heq] at hmeet
  exact hapart half hhalf ⟨hmeet.1, half_prefix_of_atMark hhalf hmore hmeet.2⟩

lemma Proper.tail {first second : Alternative} {gap : Char × Char}
    {others : List ((Char × Char) × Alternative)}
    (h : Proper ⟨first, (gap, second) :: others⟩) : Proper ⟨second, others⟩ where
  spelled g hg := h.spelled g (List.mem_cons_of_mem _ hg)
  whole a ha := h.whole a (List.mem_cons_of_mem first ha)
  apart := h.apart.tail

/-- A proper reading is read from what it is written as. -/
theorem Proper.reads {r : Reading} (h : r.Proper) : Reads 0 r.render r := by
  obtain ⟨first, others⟩ := r
  induction others generalizing first with
  | nil =>
      have hwhole := h.whole first (by simp [alternatives])
      simpa [render] using Reads.nil.alternative hwhole (seam_nil _) rfl
  | cons gap others ih =>
      obtain ⟨⟨o, t⟩, second⟩ := gap
      have hnext : Reads 0 (render ⟨second, others⟩) ⟨second, others⟩ := ih second h.tail
      have hor : isOr o t = true := h.spelled _ List.mem_cons_self
      have hseam : Seam first.key (o :: t :: render ⟨second, others⟩) :=
        seam_of_apart h.spelled (List.isChain_cons_cons.mp h.apart).1
      have hread := (hnext.or hor).alternative (h.whole first List.mem_cons_self) hseam rfl
      simpa [render, precede] using hread

@[simp] lemma opening_precedeText (s : List Char) (a : Alternative) :
    (a.precedeText s).opening = s ++ a.opening := by
  obtain ⟨names, key⟩ := a
  cases names <;> rfl

@[simp] lemma tail_segments_precedeText (s : List Char) (a : Alternative) :
    (a.precedeText s).segments.tail = a.segments.tail := by
  obtain ⟨names, key⟩ := a
  cases names <;> rfl

lemma segments_eq (a : Alternative) : a.segments = a.opening :: a.segments.tail := by
  obtain ⟨names, key⟩ := a
  cases names <;> rfl

lemma opening_prefix_render (a : Alternative) : a.opening <+: a.render := by
  obtain ⟨more, -, heq⟩ := Alternative.render_eq_opening a [] .nil
  rw [List.append_nil] at heq
  exact ⟨more, heq.symm⟩

lemma Reads.render_eq {inside : ℕ} {text : List Char} {r : Reading} (h : Reads inside text r) :
    r.render = text := by
  induction h with
  | nil => rfl
  | inside _ _ ih | compound _ _ ih | plus _ ih | or _ _ ih | plain _ _ _ _ ih =>
      simp [ih, Token.chars]

/-- `Proper`, for a reading whose first `inside` characters end an uncut word. -/
structure Sound (inside : ℕ) (r : Reading) : Prop where
  spelled : ∀ gap ∈ r.others, isOr gap.1.1 gap.1.2 = true
  opening : WholeFrom inside r.first.opening
  reach : inside ≤ r.first.opening.length
  later : ∀ s ∈ r.first.segments.tail, Whole s
  others : ∀ gap ∈ r.others, ∀ s ∈ gap.2.segments, Whole s
  apart : r.alternatives.IsChain Apart

lemma Sound.proper {r : Reading} (h : Sound 0 r) : r.Proper where
  spelled := h.spelled
  whole a ha s hs := by
    rw [alternatives, List.mem_cons, List.mem_map] at ha
    rcases ha with rfl | ⟨gap, hgap, rfl⟩
    · rw [segments_eq, List.mem_cons] at hs
      rcases hs with rfl | hs
      · exact wholeFrom_zero.mp h.opening
      · exact h.later s hs
    · exact h.others gap hgap s hs
  apart := h.apart

lemma compound_of_halves : ∀ half ∈ halves, half.1 ++ "or".toList ++ half.2 ∈ compounds := by
  decide

/-- If one more letter makes the key the front half of an uncut word whose other half follows
the gap, then the word stands there, and reaches further than the first segment. -/
lemma apart_precedeText {c o t : Char} {a b : Alternative} (rest : List Char)
    (hor : isOr o t = true)
    (hreach : ∀ m, compoundLength? (c :: (a.render ++ o :: t :: (b.render ++ rest))) = some m →
      m ≤ a.opening.length + 1)
    (h : Apart a b) : Apart (a.precedeText [c]) b := by
  obtain ⟨ho, ht⟩ := isOr_iff.mp hor
  obtain ⟨names, key⟩ := a
  cases names with
  | cons name names => exact h
  | nil =>
      rintro half hhalf ⟨hkey, hopening⟩
      simp only [Alternative.precedeText, List.singleton_append, List.map_cons] at hkey
      rcases List.suffix_cons_iff.mp hkey with heq | hkey
      · have hbegins : beginsWith (half.1 ++ "or".toList ++ half.2)
            (c :: (key ++ o :: t :: (b.render ++ rest))) = true := by
          have hnext : half.2 <+: (b.render ++ rest).map asciiLower :=
            hopening.trans (((opening_prefix_render b).trans (List.prefix_append _ rest)).map _)
          rw [beginsWith_iff, List.map_cons, List.map_append, List.map_cons, List.map_cons, ho, ht,
            ← List.cons_append, ← heq, List.append_assoc]
          exact (List.prefix_append_right_inj _).mpr
            ((List.prefix_append_right_inj ['o', 'r']).mpr hnext)
        have hword := compound_of_halves half hhalf
        have hm := hreach _ (by
          simpa [Alternative.render] using
            compoundLength?_eq_some_iff.mpr ⟨_, hword, rfl, hbegins⟩)
        have hlen := congrArg List.length heq
        simp only [Alternative.opening, List.length_cons, List.length_map] at hm hlen
        have : half.1.length < (half.1 ++ "or".toList ++ half.2).length := by simp
        omega
      · exact h half hhalf ⟨hkey, hopening⟩

lemma Sound.precede_text {k inside : ℕ} {c : Char} {r : Reading} (h : Sound k r)
    (hwhole : WholeFrom inside (c :: r.first.opening))
    (hinside : inside ≤ r.first.opening.length + 1)
    (hreach : ∀ m, compoundLength? (c :: r.render) = some m → m ≤ r.first.opening.length + 1) :
    Sound inside (r.precede (.text [c])) where
  spelled := h.spelled
  opening := by simpa [precede] using hwhole
  reach := by simpa [precede] using hinside
  later := by simpa [precede] using h.later
  others := h.others
  apart := by
    obtain ⟨first, others⟩ := r
    cases others with
    | nil => exact List.isChain_singleton _
    | cons gap others =>
        obtain ⟨⟨o, t⟩, second⟩ := gap
        have happ := h.apart
        simp only [precede, alternatives, List.map_cons] at happ ⊢
        rw [List.isChain_cons_cons] at happ ⊢
        refine ⟨apart_precedeText (renderOthers others) (h.spelled _ List.mem_cons_self) ?_ happ.1,
          happ.2⟩
        simpa [render_eq_append, renderOthers] using hreach

/-- One more character of the current uncut word, or of plain text, keeps a reading sound; so
do a word's first character and both marks. -/
theorem Reads.sound {inside : ℕ} {text : List Char} {r : Reading} (h : Reads inside text r) :
    Sound inside r := by
  induction h with
  | nil =>
      exact ⟨by simp, wholeFrom_zero.mpr whole_nil, Nat.zero_le _, by simp [Alternative.segments,
        Alternative.empty], by simp, List.isChain_singleton _⟩
  | @inside k c rest r ends h ih =>
      have hopening : c :: r.first.opening <+: c :: rest := by
        rw [← h.render_eq]
        exact (List.prefix_cons_inj c).mpr
          ((opening_prefix_render r.first).trans (List.prefix_append _ _))
      have hends := ends.of_isPrefix hopening (by simpa using ih.reach)
      refine ih.precede_text ((wholeFrom_inside hends).mpr ih.opening)
        (by have := ih.reach; omega) fun m hm => ?_
      rw [h.render_eq, ends.compoundLength?_eq_none] at hm
      contradiction
  | @compound m c rest r begins h ih =>
      have hopening : c :: r.first.opening <+: c :: rest := by
        rw [← h.render_eq]
        exact (List.prefix_cons_inj c).mpr
          ((opening_prefix_render r.first).trans (List.prefix_append _ _))
      have hle : m ≤ r.first.opening.length + 1 := by have := ih.reach; omega
      have hbegins := compoundLength?_of_isPrefix hopening (by simpa using hle) begins
      refine ih.precede_text (wholeFrom_zero.mpr ((whole_compound hbegins).mpr ih.opening))
        (Nat.zero_le _) fun m' hm => ?_
      rw [h.render_eq, begins] at hm
      obtain rfl : m = m' := by simpa using hm
      exact hle
  | @plus rest r h ih =>
      have hproper := ih.proper
      refine ⟨ih.spelled, wholeFrom_zero.mpr whole_nil, Nat.zero_le _, ?_, ih.others, ?_⟩
      · exact fun s hs => hproper.whole r.first List.mem_cons_self s hs
      · obtain ⟨first, others⟩ := r
        cases others with
        | nil => exact List.isChain_singleton _
        | cons gap others =>
            have happ := ih.apart
            simp only [precede, alternatives, List.map_cons] at happ ⊢
            rw [List.isChain_cons_cons] at happ ⊢
            exact happ
  | @or o t rest r spelled h ih =>
      have hproper := ih.proper
      refine ⟨?_, wholeFrom_zero.mpr whole_nil, Nat.zero_le _, by simp [precede,
        Alternative.segments, Alternative.empty], ?_, ?_⟩
      · simpa [precede, spelled] using ih.spelled
      · intro gap hgap s hs
        rcases List.mem_cons.mp hgap with rfl | hgap
        · exact hproper.whole r.first List.mem_cons_self s hs
        · exact ih.others gap hgap s hs
      · refine List.isChain_cons_cons.mpr ⟨?_, ih.apart⟩
        intro half hhalf hmeet
        have hne : ∀ half ∈ halves, half.1 ≠ [] := by decide
        exact hne half hhalf (List.suffix_nil.mp hmeet.1)
  | @plain c rest r none no_plus no_or h ih =>
      have hor : beginsWith "or".toList (c :: r.first.opening) = false := by
        by_contra hor
        rw [Bool.not_eq_false] at hor
        cases hopening : r.first.opening with
        | nil => simp [hopening, beginsWith] at hor
        | cons d more =>
            have hprefix := (opening_prefix_render r.first).trans
              ( List.prefix_append _ (renderOthers r.others))
            rw [hopening] at hprefix hor
            obtain ⟨tail, htail⟩ := hprefix
            rw [beginsWith_or_cons, no_or d (more ++ tail)] at hor
            · contradiction
            · rw [← h.render_eq, render_eq_append, ← htail]
              rfl
      refine ih.precede_text (wholeFrom_zero.mpr
        (whole_plain no_plus hor (wholeFrom_zero.mp ih.opening))) (Nat.zero_le _) fun m hm => ?_
      rw [h.render_eq, none] at hm
      contradiction

theorem proper_ofText (text : List Char) : (ofText text).Proper := (reads_ofText text).sound.proper

theorem Proper.ofText_render {r : Reading} (h : r.Proper) : ofText r.render = r :=
  ofText_eq h.reads

/-- Dividing a text and writing a reading down are inverse to each other. -/
theorem division_and_writing_inverse :
    (∀ r : Reading, r.Proper → ofText r.render = r) ∧
    (∀ text : List Char, (ofText text).Proper ∧ (ofText text).render = text) ∧
    (∀ text : List Char, ∃! r : Reading, r.Proper ∧ r.render = text) := by
  refine ⟨fun r h => h.ofText_render, fun text => ⟨proper_ofText text, render_ofText text⟩,
    fun text => ⟨ofText text, ⟨proper_ofText text, render_ofText text⟩, ?_⟩⟩
  rintro r ⟨hproper, rfl⟩
  exact hproper.ofText_render.symm

/-- The proper reading of `CmdOrCtrl++Cor Command`, with an empty segment and a dangling half. -/
theorem division_of_dangling_half :
    let r : Reading := ⟨⟨["CmdOrCtrl".toList, []], "C".toList⟩, [(('o', 'r'), ⟨[], " Command".toList⟩)]⟩
    r.Proper ∧ ofText r.render = r :=
  ⟨by decide, division_and_writing_inverse.1 _ (by decide)⟩

end Reading
end Keychord
