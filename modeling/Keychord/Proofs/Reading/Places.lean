import Keychord.Proofs.Reading.RoundTrip

/-!
# Where the alternatives stand in a text

An `or` of the text is a mark if no uncut word stands over it. An alternative goes from one such
mark, or the beginning of the text, to the next one, or the end. This speaks of places in the text
only, not of how it is read. The reading has the same alternatives at the same places: its gaps are
where the marks are, and what lies between two neighbouring ones is written as it stands there.
-/
namespace Keychord.Reading
open Text

/-- At this place of the text begins an `or` that no uncut word stands over. -/
def OrAt (text : List Char) (i : ℕ) : Prop :=
  "or".toList <+: (text.drop i).map asciiLower ∧ ¬ Sheltered text i 2

instance (text : List Char) (i : ℕ) : Decidable (OrAt text i) :=
  inferInstanceAs (Decidable (_ ∧ _))

/-- As `OrAt`, in a text whose first `inside` characters end an uncut word. -/
def OrFrom (inside : ℕ) (text : List Char) (i : ℕ) : Prop :=
  beginsWith "or".toList (text.drop i) = true ∧ ¬ ShelteredFrom inside text i 2

lemma orFrom_zero {text : List Char} {i : ℕ} : OrFrom 0 text i ↔ OrAt text i := by
  rw [OrFrom, OrAt, beginsWith_iff, shelteredFrom_zero (by decide)]

/-- The places of the gaps, if the first of them is at `place`. -/
def gapsFrom (place : ℕ) : List ((Char × Char) × Alternative) → List ℕ
  | [] => []
  | gap :: others => place :: gapsFrom (place + 2 + gap.2.render.length) others

/-- The places at which the reading has its gaps when it is written down. -/
def gaps (r : Reading) : List ℕ := gapsFrom r.first.render.length r.others

lemma gapsFrom_add (place n : ℕ) (others : List ((Char × Char) × Alternative)) :
    gapsFrom (place + n) others = (gapsFrom place others).map (· + n) := by
  induction others generalizing place with
  | nil => rfl
  | cons gap others ih =>
      have hplace : place + n + 2 + gap.2.render.length =
          place + 2 + gap.2.render.length + n := by omega
      rw [gapsFrom, gapsFrom, hplace, ih, List.map_cons]

lemma gaps_precede_text (r : Reading) (c : Char) :
    gaps (r.precede (.text [c])) = (gaps r).map (· + 1) := by
  simp only [gaps, precede, Alternative.render_precedeText, List.singleton_append,
    List.length_cons, gapsFrom_add]

lemma gaps_precede_plus (r : Reading) : gaps (r.precede .plus) = (gaps r).map (· + 1) := by
  simp only [gaps, precede, Alternative.render_precedePlus, List.length_cons, gapsFrom_add]

lemma gaps_cons (first second : Alternative) (o t : Char)
    (others : List ((Char × Char) × Alternative)) :
    gaps ⟨first, ((o, t), second) :: others⟩ =
      first.render.length :: (gaps ⟨second, others⟩).map (· + (first.render.length + 2)) := by
  have hplace : first.render.length + 2 + second.render.length =
      second.render.length + (first.render.length + 2) := by omega
  simp only [gaps, gapsFrom, hplace, gapsFrom_add]

/-- No mark is at a character that is not the letter `o`. -/
lemma not_orFrom_zero_of_head {inside : ℕ} {c : Char} {rest : List Char}
    (h : asciiLower c ≠ 'o') : ¬ OrFrom inside (c :: rest) 0 := by
  rintro ⟨hor, -⟩
  simp [beginsWith, h] at hor

/-- One character more moves the marks by one place. -/
lemma mem_map_succ_iff {P Q : ℕ → Prop} {places : List ℕ} (hzero : ¬ P 0)
    (hsucc : ∀ i, P (i + 1) ↔ Q i) (h : ∀ i, Q i ↔ i ∈ places) (i : ℕ) :
    P i ↔ i ∈ places.map (· + 1) := by
  cases i with
  | zero => simp [hzero]
  | succ i => simp [hsucc, h]

lemma orFrom_plain_succ {c : Char} {rest : List Char} (h : compoundLength? (c :: rest) = none)
    (i : ℕ) : OrFrom 0 (c :: rest) (i + 1) ↔ OrFrom 0 rest i := by
  simp only [OrFrom, List.drop_succ_cons, shelteredFrom_zero (by decide : 0 < 2),
    sheltered_plain h]

/-- The marks are where the reading has its gaps. -/
theorem Reads.orFrom_iff {inside : ℕ} {text : List Char} {r : Reading} (h : Reads inside text r)
    (i : ℕ) : OrFrom inside text i ↔ i ∈ gaps r := by
  induction h generalizing i with
  | nil => simp [OrFrom, beginsWith, gaps, gapsFrom]
  | @inside k c rest r ends h ih =>
      rw [gaps_precede_text]
      refine mem_map_succ_iff ?_ (fun i => ?_) ih i
      · rintro ⟨hor, hshelter⟩
        exact hshelter (.inl (by have := ends.two_le hor; omega))
      · simp only [OrFrom, List.drop_succ_cons, shelteredFrom_inside ends]
  | @compound m c rest r begins h ih =>
      have hm := compoundLength?_le begins
      rw [gaps_precede_text]
      refine mem_map_succ_iff ?_ (fun i => ?_) ih i
      · rintro ⟨-, hshelter⟩
        exact hshelter (.inr (sheltered_zero.mpr ⟨m, begins, by omega⟩))
      · simp only [OrFrom, List.drop_succ_cons, shelteredFrom_zero (by decide : 0 < 2),
          sheltered_compound begins]
  | @plus rest r h ih =>
      rw [gaps_precede_plus]
      exact mem_map_succ_iff (not_orFrom_zero_of_head (by decide))
        (orFrom_plain_succ (compoundLength?_of_head (by decide))) ih i
  | @or o t rest r spelled h ih =>
      obtain ⟨ho, ht⟩ := isOr_iff.mp spelled
      have hfirst : compoundLength? (o :: t :: rest) = none :=
        compoundLength?_of_head (by simp [ho])
      have hsecond : compoundLength? (t :: rest) = none := compoundLength?_of_head (by simp [ht])
      have hzero : OrFrom 0 (o :: t :: rest) 0 := by
        refine ⟨by rwa [List.drop_zero, beginsWith_or_cons], ?_⟩
        rw [shelteredFrom_zero (by decide), sheltered_zero, hfirst]
        simp
      -- no mark begins with the second letter of another one
      have hone : ¬ OrFrom 0 (o :: t :: rest) 1 := by
        rw [orFrom_plain_succ hfirst]
        exact not_orFrom_zero_of_head (by simp [ht])
      rw [precede, gaps_cons]
      rcases i with _ | _ | i
      · simp [hzero]
      · simp [hone]
      · rw [orFrom_plain_succ hfirst, orFrom_plain_succ hsecond, ih]
        simp [gaps]
  | @plain c rest r none no_plus no_or h ih =>
      rw [gaps_precede_text]
      refine mem_map_succ_iff ?_ (orFrom_plain_succ none) ih i
      rintro ⟨hor, -⟩
      cases rest with
      | nil => simp [beginsWith] at hor
      | cons d more =>
          rw [List.drop_zero, beginsWith_or_cons, no_or d more rfl] at hor
          contradiction

theorem Proper.orAt_iff {r : Reading} (h : r.Proper) (i : ℕ) : OrAt r.render i ↔ i ∈ gaps r := by
  rw [← orFrom_zero]
  exact h.reads.orFrom_iff i

example : OrAt "CmdOrCtrl+AorB".toList 11 ∧ ¬ OrAt "CmdOrCtrl+AorB".toList 3 := by decide

/-- The first mark stands behind the first alternative, the others in the text behind it. -/
lemma Proper.orAt_cons_iff {first second : Alternative} {o t : Char}
    {others : List ((Char × Char) × Alternative)}
    (h : Proper ⟨first, ((o, t), second) :: others⟩) (i : ℕ) :
    OrAt (first.render ++ o :: t :: render ⟨second, others⟩) i ↔
      i = first.render.length ∨
        ∃ k, OrAt (render ⟨second, others⟩) k ∧ i = first.render.length + 2 + k := by
  have hrender : first.render ++ o :: t :: render ⟨second, others⟩ =
      render ⟨first, ((o, t), second) :: others⟩ := by
    simp [render]
  rw [hrender, h.orAt_iff, gaps_cons, List.mem_cons, List.mem_map]
  refine or_congr_right (exists_congr fun k => ?_)
  rw [h.tail.orAt_iff]
  exact and_congr_right fun _ => by omega

/-- Between `before` and `after`, `part` is an alternative of the text: it begins at the beginning
of the text or behind a mark, and ends at the next mark or at the end of the text. -/
structure IsAlternative (text before part after : List Char) : Prop where
  text_eq : text = before ++ part ++ after
  begins : before = [] ∨ ∃ i, OrAt text i ∧ before.length = i + 2
  ends : after = [] ∨ OrAt text (before.length + part.length)
  uncut : ∀ i, before.length ≤ i → i < before.length + part.length → ¬ OrAt text i

/-- A text without marks has one alternative. -/
lemma isAlternative_of_no_or {text before part after : List Char} (h : ∀ i, ¬ OrAt text i) :
    IsAlternative text before part after ↔ before = [] ∧ part = text ∧ after = [] := by
  constructor
  · intro halt
    have hbefore : before = [] := halt.begins.resolve_right fun ⟨i, hi, _⟩ => h i hi
    have hafter : after = [] := halt.ends.resolve_right (h _)
    have htext := halt.text_eq
    rw [hbefore, hafter, List.nil_append, List.append_nil] at htext
    exact ⟨hbefore, htext.symm, hafter⟩
  · rintro ⟨rfl, rfl, rfl⟩
    exact ⟨by simp, .inl rfl, .inl rfl, fun i _ _ => h i⟩

section Cut

variable {x rest : List Char} {o t : Char}

/-- The first mark of a text is behind `x`; what is behind it has marks of its own. -/
def Cut (x : List Char) (o t : Char) (rest : List Char) : Prop :=
  ∀ i, OrAt (x ++ o :: t :: rest) i ↔
    i = x.length ∨ ∃ k, OrAt rest k ∧ i = x.length + 2 + k

lemma Cut.isAlternative_first (h : Cut x o t rest) :
    IsAlternative (x ++ o :: t :: rest) [] x (o :: t :: rest) where
  text_eq := by simp
  begins := .inl rfl
  ends := .inr ((h _).mpr (.inl (by simp)))
  uncut i _ hi hor := by
    rw [List.length_nil, Nat.zero_add] at hi
    rcases (h i).mp hor with hplace | ⟨k, -, hplace⟩ <;> omega

/-- Nothing but the text up to the first mark is an alternative at the beginning. -/
lemma Cut.eq_of_isAlternative_nil (h : Cut x o t rest) {part after : List Char}
    (halt : IsAlternative (x ++ o :: t :: rest) [] part after) :
    part = x ∧ after = o :: t :: rest := by
  obtain ⟨htext, -, hends, huncut⟩ := halt
  rw [List.nil_append] at htext
  rw [List.length_nil, Nat.zero_add] at hends huncut
  have hle : part.length ≤ x.length := by
    by_contra hlt
    exact huncut x.length (Nat.zero_le _) (by omega) ((h _).mpr (.inl rfl))
  -- it ends at a mark or at the end of the text, and neither comes before the first mark
  have hge : x.length ≤ part.length := by
    rcases hends with hafter | hor
    · have hlen := congrArg List.length htext
      simp only [hafter, List.length_append, List.length_cons, List.length_nil] at hlen
      omega
    · rcases (h _).mp hor with hplace | ⟨k, -, hplace⟩ <;> omega
  obtain ⟨hx, hafter⟩ := List.append_inj htext (Nat.le_antisymm hge hle)
  exact ⟨hx.symm, hafter.symm⟩

/-- Behind the first mark, the alternatives are those of the text that stands there. -/
lemma Cut.isAlternative_later (h : Cut x o t rest) {before part after : List Char} :
    IsAlternative (x ++ o :: t :: rest) (x ++ o :: t :: before) part after ↔
      IsAlternative rest before part after := by
  have hlen : (x ++ o :: t :: before).length = x.length + 2 + before.length := by simp; omega
  have hshift : ∀ i, OrAt (x ++ o :: t :: rest) (x.length + 2 + i) ↔ OrAt rest i := by
    intro i
    rw [h]
    constructor
    · rintro (hplace | ⟨k, hk, hplace⟩)
      · omega
      · rwa [show i = k by omega]
    · exact fun hi => .inr ⟨i, hi, rfl⟩
  constructor
  · rintro ⟨htext, hbegins, hends, huncut⟩
    rw [hlen] at hbegins hends huncut
    refine ⟨by simpa using htext, ?_, ?_, fun i hlo hhi => ?_⟩
    · rcases hbegins with hnil | ⟨i, hor, hplace⟩
      · simp at hnil
      · rcases (h i).mp hor with hi | ⟨k, hk, hi⟩
        · exact .inl (List.length_eq_zero_iff.mp (by omega))
        · exact .inr ⟨k, hk, by omega⟩
    · rw [Nat.add_assoc, hshift] at hends
      exact hends
    · rw [← hshift]
      exact huncut _ (by omega) (by omega)
  · rintro ⟨htext, hbegins, hends, huncut⟩
    refine ⟨by simp [htext], .inr ?_, ?_, fun i hlo hhi => ?_⟩
    · rcases hbegins with rfl | ⟨k, hk, hplace⟩
      · exact ⟨x.length, (h _).mpr (.inl rfl), by simp⟩
      · exact ⟨x.length + 2 + k, (hshift k).mpr hk, by omega⟩
    · rw [hlen, Nat.add_assoc, hshift]
      exact hends
    · rw [hlen] at hlo hhi
      obtain ⟨k, rfl⟩ := Nat.exists_eq_add_of_le (show x.length + 2 ≤ i by omega)
      rw [hshift]
      exact huncut k (by omega) (by omega)

/-- An alternative that is not at the beginning is behind the first mark. -/
lemma Cut.exists_of_isAlternative (h : Cut x o t rest) {before part after : List Char}
    (halt : IsAlternative (x ++ o :: t :: rest) before part after) (hne : before ≠ []) :
    ∃ before', before = x ++ o :: t :: before' := by
  obtain ⟨i, hor, hplace⟩ := halt.begins.resolve_left hne
  have hlen : (x ++ [o, t]).length ≤ before.length := by
    rw [hplace, List.length_append, List.length_cons, List.length_cons, List.length_nil]
    rcases (h i).mp hor with hi | ⟨k, -, hi⟩ <;> omega
  have hbefore : before <+: x ++ o :: t :: rest := by
    rw [halt.text_eq, List.append_assoc]
    exact List.prefix_append _ _
  have hfirst : x ++ [o, t] <+: x ++ o :: t :: rest := ⟨rest, by simp⟩
  obtain ⟨before', rfl⟩ := List.prefix_of_prefix_length_le hfirst hbefore hlen
  exact ⟨before', by simp⟩

end Cut

/-- When the reading is written down, the alternative stands between these two texts. -/
inductive Placed : Reading → List Char → Alternative → List Char → Prop
  | first {a : Alternative} {others : List ((Char × Char) × Alternative)} :
      Placed ⟨a, others⟩ [] a (renderOthers others)
  | later {first second a : Alternative} {o t : Char}
      {others : List ((Char × Char) × Alternative)} {before after : List Char}
      (h : Placed ⟨second, others⟩ before a after) :
      Placed ⟨first, ((o, t), second) :: others⟩ (first.render ++ o :: t :: before) a after

lemma Placed.mem {r : Reading} {before after : List Char} {a : Alternative}
    (h : Placed r before a after) : a ∈ r.alternatives := by
  induction h with
  | first => exact List.mem_cons_self
  | later h ih => exact List.mem_cons_of_mem _ ih

/-- The alternatives of a text are those of its reading, at the same places. -/
theorem Proper.isAlternative_iff {r : Reading} (h : r.Proper) (before part after : List Char) :
    IsAlternative r.render before part after ↔ ∃ a, Placed r before a after ∧ a.render = part := by
  obtain ⟨first, others⟩ := r
  induction others generalizing before first with
  | nil =>
      have hno : ∀ i, ¬ OrAt (render ⟨first, []⟩) i := by
        intro i
        rw [h.orAt_iff]
        simp [gaps, gapsFrom]
      rw [isAlternative_of_no_or hno]
      constructor
      · rintro ⟨rfl, rfl, rfl⟩
        exact ⟨first, .first, by simp [render]⟩
      · rintro ⟨a, ⟨⟩, rfl⟩
        simp [render, renderOthers]
  | cons gap others ih =>
      obtain ⟨⟨o, t⟩, second⟩ := gap
      have hcut : Cut first.render o t (render ⟨second, others⟩) := h.orAt_cons_iff
      have hrender : render ⟨first, ((o, t), second) :: others⟩ =
          first.render ++ o :: t :: render ⟨second, others⟩ := by
        simp [render]
      rw [hrender]
      constructor
      · intro halt
        by_cases hbefore : before = []
        · subst hbefore
          obtain ⟨rfl, rfl⟩ := hcut.eq_of_isAlternative_nil halt
          exact ⟨first, .first, rfl⟩
        · obtain ⟨before', rfl⟩ := hcut.exists_of_isAlternative halt hbefore
          have hrest := hcut.isAlternative_later.mp halt
          obtain ⟨a, hplaced, rfl⟩ := (ih before' second h.tail).mp hrest
          exact ⟨a, .later hplaced, rfl⟩
      · rintro ⟨a, hplaced, rfl⟩
        cases hplaced with
        | first => exact hcut.isAlternative_first
        | later hplaced =>
            exact hcut.isAlternative_later.mpr ((ih _ second h.tail).mpr ⟨a, hplaced, rfl⟩)

/-- What stands between the marks of a text is what its reading has as alternatives. -/
theorem isAlternative_iff {text before part after : List Char} :
    IsAlternative text before part after ↔
      ∃ a, Placed (ofText text) before a after ∧ a.render = part := by
  have h := (proper_ofText text).isAlternative_iff before part after
  rwa [render_ofText] at h

/-- An alternative that is found first stands before all others of its kind. -/
lemma exists_placed_of_find? {r : Reading} {q : Alternative → Bool} {a : Alternative}
    (h : r.alternatives.find? q = some a) :
    ∃ before after, Placed r before a after ∧ ∀ before' a' after', Placed r before' a' after' →
      before'.length < before.length → q a' = false := by
  obtain ⟨first, others⟩ := r
  induction others generalizing first with
  | nil =>
      obtain rfl : a = first := by
        have hmem := List.mem_of_find?_eq_some h
        simpa [alternatives] using hmem
      exact ⟨[], _, .first, fun _ _ _ _ hlt => absurd hlt (Nat.not_lt_zero _)⟩
  | cons gap others ih =>
      obtain ⟨⟨o, t⟩, second⟩ := gap
      rw [alternatives, List.find?_cons] at h
      cases hq : q first with
      | true =>
          obtain rfl : first = a := by simpa [hq] using h
          exact ⟨[], _, .first, fun _ _ _ _ hlt => absurd hlt (Nat.not_lt_zero _)⟩
      | false =>
          rw [hq] at h
          obtain ⟨before, after, hplaced, hfirst⟩ := ih second h
          refine ⟨_, after, .later hplaced, fun before' a' after' hplaced' hlt => ?_⟩
          cases hplaced' with
          | first => exact hq
          | later hplaced' => exact hfirst _ _ _ hplaced' (by simpa using hlt)

end Keychord.Reading
