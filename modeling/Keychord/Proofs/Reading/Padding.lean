import Keychord.Proofs.Reading.LowerCase

/-!
# Blanks around a text, and texts put together

A blank belongs to no mark and to no uncut word. In front of a text it only makes the first segment
longer, and behind it only the last one. And a text may go on with anything behind an `or` between
blanks: no uncut word reaches across it, so the whole has the alternatives of the one text followed
by those of the other.
-/
namespace Keychord.Reading
open Text

lemma asciiLower_ne_of_isBlank {c : Char} (hc : isBlank c = true) :
    ∀ d ∈ markLetters, asciiLower c ≠ d := by
  have hmarks : ∀ d ∈ markLetters, isBlank d = false :=
    List.forall_iff_forall_mem.mp (by decide)
  rintro d hd rfl
  rw [← isBlank_asciiLower, hmarks _ hd] at hc
  contradiction

/-- A blank in front of a text goes in front of its first segment. -/
lemma ofText_cons_of_isBlank {c : Char} (hc : isBlank c = true) (text : List Char) :
    ofText (c :: text) = (ofText text).precede (.text [c]) := by
  have hne := asciiLower_ne_of_isBlank hc
  have hplus : c ≠ '+' := by
    intro h
    exact hne '+' (by decide) (by rw [h]; decide)
  refine ofText_eq (.plain (compoundLength?_of_head (hne 'c' (by decide))) hplus ?_
    (reads_ofText text))
  intro d more _
  have ho : asciiLower c ≠ 'o' := hne 'o' (by decide)
  simp [isOr, ho]

/-- Puts text behind the last one of these alternatives. -/
def followFrom (chars : List Char) (first : Alternative) :
    List ((Char × Char) × Alternative) → Reading
  | [] => ⟨⟨first.names, first.key ++ chars⟩, []⟩
  | (gap, a) :: others =>
    let rest := followFrom chars a others
    ⟨first, (gap, rest.first) :: rest.others⟩

/-- Puts text behind the last segment of a reading. -/
def follow (r : Reading) (chars : List Char) : Reading := followFrom chars r.first r.others

lemma precedeText_follow (xs ys : List Char) (a : Alternative) :
    (⟨a.names, a.key ++ ys⟩ : Alternative).precedeText xs =
      ⟨(a.precedeText xs).names, (a.precedeText xs).key ++ ys⟩ := by
  obtain ⟨names, key⟩ := a
  cases names <;> simp [Alternative.precedeText]

/-- What is put in front of a reading and what is put behind it do not get in each other's way. -/
lemma follow_precede (r : Reading) (t : Token) (chars : List Char) :
    (r.precede t).follow chars = (r.follow chars).precede t := by
  obtain ⟨first, others⟩ := r
  cases t with
  | or o t => rfl
  | text xs =>
      cases others with
      | nil => simp only [follow, followFrom, precede, precedeText_follow]
      | cons gap others => rfl
  | plus =>
      cases others with
      | nil => rfl
      | cons gap others => rfl

lemma compoundLength?_append_of_isBlank {c : Char} (hc : isBlank c = true) (text : List Char) :
    compoundLength? (text ++ [c]) = compoundLength? text := by
  refine compoundLength?_append fun word hword hbegins => ?_
  rw [beginsWith_iff, List.map_append] at hbegins
  rcases prefix_or_beyond hbegins with h | ⟨t, rfl, hne, ht⟩
  · exact (beginsWith_iff word text).mpr h
  · obtain ⟨d, t, rfl⟩ := List.exists_cons_of_ne_nil hne
    have hd : d = asciiLower c := (List.cons_prefix_cons.mp ht).1
    have hmark := mem_markLetters_of_mem_compounds hword d (by simp)
    exact absurd hd.symm (asciiLower_ne_of_isBlank hc d hmark)

/-- Each rule of reading applies in the same way if a blank comes behind the text. -/
theorem Reads.follow {inside : ℕ} {text : List Char} {r : Reading} (h : Reads inside text r)
    {c : Char} (hc : isBlank c = true) : Reads inside (text ++ [c]) (r.follow [c]) := by
  induction h with
  | nil =>
      have hread := reads_ofText [c]
      rwa [ofText_cons_of_isBlank hc] at hread
  | inside ends h ih =>
      rw [follow_precede]
      exact .inside (ends.mono (List.prefix_append _ [c])) ih
  | compound begins h ih =>
      rw [follow_precede]
      exact .compound (compoundLength?_mono (List.prefix_append _ [c]) begins) ih
  | plus h ih =>
      rw [follow_precede]
      exact .plus ih
  | or spelled h ih =>
      rw [follow_precede]
      exact .or spelled ih
  | @plain d rest r none no_plus no_or h ih =>
      rw [follow_precede]
      have hnone : compoundLength? (d :: rest ++ [c]) = Option.none :=
        (compoundLength?_append_of_isBlank hc _).trans none
      refine .plain hnone no_plus (fun e more hrest => ?_) ih
      cases rest with
      | nil =>
          obtain rfl : c = e := by simpa using congrArg List.head? hrest
          have hr : asciiLower c ≠ 'r' := asciiLower_ne_of_isBlank hc 'r' (by decide)
          simp [isOr, hr]
      | cons e' rest =>
          obtain rfl : e' = e := by simpa using congrArg List.head? hrest
          exact no_or e' rest rfl

lemma ofText_append_of_isBlank {c : Char} (hc : isBlank c = true) (text : List Char) :
    ofText (text ++ [c]) = (ofText text).follow [c] :=
  ofText_eq ((reads_ofText text).follow hc)

lemma map_alternatives_precede_text {β : Type*} {f : Alternative → β} {chars : List Char}
    (h : ∀ a, f (a.precedeText chars) = f a) (r : Reading) :
    (r.precede (.text chars)).alternatives.map f = r.alternatives.map f := by
  simp [alternatives, precede, h]

lemma map_alternatives_follow {β : Type*} {f : Alternative → β} {chars : List Char}
    (h : ∀ a : Alternative, f ⟨a.names, a.key ++ chars⟩ = f a) (r : Reading) :
    (r.follow chars).alternatives.map f = r.alternatives.map f := by
  obtain ⟨first, others⟩ := r
  induction others generalizing first with
  | nil => simp [follow, followFrom, alternatives, h]
  | cons gap others ih =>
      obtain ⟨gap, a⟩ := gap
      have hrest := ih a
      simp only [follow, followFrom, alternatives, List.map_cons] at hrest ⊢
      rw [hrest]

/-- The alternatives of the one reading, a gap, and the alternatives of the other. -/
def append (r : Reading) (gap : Char × Char) (q : Reading) : Reading :=
  ⟨r.first, r.others ++ (gap, q.first) :: q.others⟩

@[simp] lemma alternatives_append (r : Reading) (gap : Char × Char) (q : Reading) :
    (r.append gap q).alternatives = r.alternatives ++ q.alternatives := by
  simp [append, alternatives]

@[simp] lemma render_append (r : Reading) (o t : Char) (q : Reading) :
    (r.append (o, t) q).render = r.render ++ o :: t :: q.render := by
  simp [append, render]

lemma Proper.append {r q : Reading} {o t : Char} (hr : r.Proper) (hq : q.Proper)
    (hor : isOr o t = true) (hapart : ∀ a, Apart a q.first) : (r.append (o, t) q).Proper where
  spelled gap hgap := by
    simp only [Reading.append, List.mem_append, List.mem_cons] at hgap
    rcases hgap with hgap | rfl | hgap
    · exact hr.spelled gap hgap
    · exact hor
    · exact hq.spelled gap hgap
  whole a ha := by
    rw [alternatives_append, List.mem_append] at ha
    rcases ha with ha | ha
    · exact hr.whole a ha
    · exact hq.whole a ha
  apart := by
    rw [alternatives_append, List.isChain_append]
    refine ⟨hr.apart, hq.apart, fun a _ b hb => ?_⟩
    obtain rfl : q.first = b := by simpa [alternatives] using hb
    exact hapart a

/-- No uncut word reaches across a blank. -/
lemma apart_of_isBlank {c : Char} (hc : isBlank c = true) (a b : Alternative) :
    Apart a (b.precedeText [c]) := by
  have hhead : ∀ half ∈ halves, half.2.head? = some 'c' := by decide
  rintro half hhalf ⟨-, hright⟩
  have hfirst := hhead half hhalf
  rw [opening_precedeText, List.singleton_append, List.map_cons] at hright
  cases hsecond : half.2 with
  | nil => simp [hsecond] at hfirst
  | cons d more =>
      rw [hsecond, List.head?_cons, Option.some.injEq] at hfirst
      rw [hsecond, hfirst] at hright
      have hblank : 'c' = asciiLower c := (List.cons_prefix_cons.mp hright).1
      exact asciiLower_ne_of_isBlank hc 'c' (by decide) hblank.symm

/-- With an `or` between blanks, two texts have the alternatives of both. -/
theorem ofText_append_or_append (xs ys : List Char) :
    ofText (xs ++ " or ".toList ++ ys) =
      (ofText (xs ++ [' '])).append ('o', 'r') (ofText (' ' :: ys)) := by
  have hblank : isBlank ' ' = true := by decide
  have hrender : xs ++ " or ".toList ++ ys =
      ((ofText (xs ++ [' '])).append ('o', 'r') (ofText (' ' :: ys))).render := by
    simp [render_ofText]
  rw [hrender]
  refine Proper.ofText_render ((proper_ofText _).append (proper_ofText _) (by decide) fun a => ?_)
  rw [ofText_cons_of_isBlank hblank]
  exact apart_of_isBlank hblank a _

end Keychord.Reading
