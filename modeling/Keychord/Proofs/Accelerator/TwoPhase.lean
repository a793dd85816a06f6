import Keychord.Proofs.Accelerator.OnPlatform
import Keychord.Proofs.Reading.RoundTrip
import Mathlib.Data.List.Find

/-!
# Shortcuts read in two phases

Another way to read a shortcut: the uncut words are protected wherever they stand, then the
text is cut at every `or` that is not protected, and last every alternative at each `+`. What
an event triggers is then said by a table of modifiers and by comparing keys. The scanner,
which does all this in one pass, and the reader of accelerators give the same answer for every
text, event and platform.
-/
namespace Keychord.TwoPhase
open Text Reading

/-- Each character of a text, with whether an uncut word stands over it. -/
def protect (text : List Char) : List (Char × Bool) :=
  text.mapIdx fun i c => (c, decide (Sheltered text i 1))

/-- The parts of a text between the `or`s of which neither letter is protected. -/
def cutAtOrs : List (Char × Bool) → List (List Char)
  | [] => [[]]
  | [(c, _)] => [[c]]
  | (c, inC) :: (d, inD) :: rest =>
    if asciiLower c = 'o' ∧ asciiLower d = 'r' ∧ inC = false ∧ inD = false then
      [] :: cutAtOrs rest
    else (cutAtOrs ((d, inD) :: rest)).modifyHead (c :: ·)

/-- The texts of the alternatives. -/
def alternatives (text : List Char) : List (List Char) := cutAtOrs (protect text)

def segments (alternative : List Char) : List (List Char) := alternative.splitOn '+'

/-- The last segment. -/
def key (alternative : List Char) : List Char := (segments alternative).getLastD []

/-- The modifiers named by the segments before the last; other words are ignored. -/
def names (alternative : List Char) : List ModifierName :=
  (segments alternative).dropLast.filterMap fun s => ModifierName.read (String.ofList (lower (trim s)))

/-- Whether the event triggers the shortcut on a platform, or the text of the first alternative
with a blank key. -/
def triggers (p : Platform) (e : KeyEvent) (text : String) : Except InvalidAccelerator Bool :=
  if allBlank text.toList then .ok false
  else
    let alts := alternatives text.toList
    match alts.find? fun a => allBlank (key a) with
    | some a => .error ⟨String.ofList (trim a)⟩
    | none =>
      let leading := names (alts.headD [])
      .ok (decide (¬ (.option ∈ leading ∧ p.isApple = false) ∧
        e.modifiers = ModifierName.heldOn p leading ∧
        ∃ a ∈ alts, KeyEvent.normalizeLabel e.label = String.ofList (lower (trim (key a)))))

/-- `protect`, where the first `inside` characters end an uncut word. -/
def protectFrom (inside : ℕ) (text : List Char) : List (Char × Bool) :=
  text.mapIdx fun i c => (c, decide (i + 1 ≤ inside ∨ Sheltered text i 1))

lemma protectFrom_zero (text : List Char) : protectFrom 0 text = protect text := by
  simp [protectFrom, protect]

lemma protectFrom_inside {k : ℕ} {c : Char} {rest : List Char}
    (h : EndsCompound (k + 1) (c :: rest)) :
    protectFrom (k + 1) (c :: rest) = (c, true) :: protectFrom k rest := by
  rw [protectFrom, List.mapIdx_cons, protectFrom]
  refine congrArg₂ List.cons (by simp) ?_
  congr 1
  funext i d
  have hiff := shelteredFrom_inside (i := i) (n := 1) h
  unfold ShelteredFrom at hiff
  simp only [hiff]

lemma protectFrom_compound {m : ℕ} {c : Char} {rest : List Char}
    (h : compoundLength? (c :: rest) = some m) :
    protectFrom 0 (c :: rest) = (c, true) :: protectFrom (m - 1) rest := by
  have hm := compoundLength?_le h
  have hfirst : Sheltered (c :: rest) 0 1 := sheltered_zero.mpr ⟨m, h, by omega⟩
  rw [protectFrom_zero, protect, List.mapIdx_cons, protectFrom]
  refine congrArg₂ List.cons (by simp [hfirst]) ?_
  congr 1
  funext i d
  have hiff := sheltered_compound (i := i) (n := 1) h
  unfold ShelteredFrom at hiff
  simp only [hiff]

lemma protectFrom_plain {c : Char} {rest : List Char}
    (h : compoundLength? (c :: rest) = none) :
    protectFrom 0 (c :: rest) = (c, false) :: protectFrom 0 rest := by
  have hfirst : ¬ Sheltered (c :: rest) 0 1 := by
    rw [sheltered_zero, h]
    simp
  rw [protectFrom_zero, protectFrom_zero, protect, List.mapIdx_cons, protect]
  refine congrArg₂ List.cons (by simp [hfirst]) ?_
  congr 1
  funext i d
  simp only [sheltered_plain h]

lemma cutAtOrs_cons {c : Char} {inC : Bool} {rest : List (Char × Bool)}
    (h : ∀ d inD more, rest = (d, inD) :: more → inC = true ∨ isOr c d = false) :
    cutAtOrs ((c, inC) :: rest) = (cutAtOrs rest).modifyHead (c :: ·) := by
  cases rest with
  | nil => rfl
  | cons marked more =>
      obtain ⟨d, inD⟩ := marked
      rw [cutAtOrs, if_neg]
      rintro ⟨hc, hd, hinC, -⟩
      rcases h d inD more rfl with htrue | hor
      · rw [hinC] at htrue
        contradiction
      · rw [isOr_iff.mpr ⟨hc, hd⟩] at hor
        contradiction

lemma map_render_precede_text (r : Reading) (c : Char) :
    (r.precede (.text [c])).alternatives.map Alternative.render =
      (r.alternatives.map Alternative.render).modifyHead (c :: ·) := by
  simp [precede, Reading.alternatives]

/-- The scanner cuts where the two phases cut. -/
theorem map_render_alternatives {inside : ℕ} {text : List Char} {r : Reading}
    (h : Reads inside text r) :
    r.alternatives.map Alternative.render = cutAtOrs (protectFrom inside text) := by
  induction h with
  | nil => rfl
  | inside ends h ih =>
      rw [map_render_precede_text, ih, protectFrom_inside ends, cutAtOrs_cons (by simp)]
  | compound begins h ih =>
      rw [map_render_precede_text, ih, protectFrom_compound begins, cutAtOrs_cons (by simp)]
  | @plus rest r h ih =>
      have hor : ∀ d, isOr '+' d = false := by simp [isOr, asciiLower]
      rw [protectFrom_plain (compoundLength?_of_head (by decide)), cutAtOrs_cons (by simp [hor]),
        ← ih]
      simp [precede, Reading.alternatives]
  | @or o t rest r spelled h ih =>
      obtain ⟨ho, ht⟩ := isOr_iff.mp spelled
      rw [protectFrom_plain (compoundLength?_of_head (by simp [ho])),
        protectFrom_plain (compoundLength?_of_head (by simp [ht])), cutAtOrs,
        if_pos ⟨ho, ht, rfl, rfl⟩, ← ih]
      simp [precede, Reading.alternatives]
  | @plain c rest r none no_plus no_or h ih =>
      rw [map_render_precede_text, ih, protectFrom_plain none, cutAtOrs_cons]
      intro d inD more hrest
      refine .inr (no_or d (rest.tail) ?_)
      cases rest with
      | nil => simp [protectFrom] at hrest
      | cons e rest =>
          have he : e = d := by
            simpa [protectFrom, List.mapIdx_cons] using congrArg (fun l => l.head?.map Prod.fst) hrest
          rw [he, List.tail_cons]

theorem alternatives_eq (text : List Char) :
    alternatives text = (ofText text).alternatives.map Alternative.render := by
  rw [alternatives, ← protectFrom_zero, map_render_alternatives (reads_ofText text)]

lemma render_eq_intercalate (a : Alternative) : a.render = ['+'].intercalate a.segments := by
  obtain ⟨names, key⟩ := a
  induction names with
  | nil => simp [Alternative.render, Alternative.segments]
  | cons name names ih =>
      cases names with
      | nil => simp [Alternative.render, Alternative.segments, List.intercalate]
      | cons other names =>
          simp_all [Alternative.render, Alternative.segments, List.intercalate]

lemma segments_render {text : List Char} {a : Alternative}
    (ha : a ∈ (ofText text).alternatives) : segments a.render = a.segments := by
  rw [segments, render_eq_intercalate]
  refine List.splitOn_intercalate '+' (fun s hs => ?_) (by simp [Alternative.segments])
  exact ((proper_ofText text).whole a ha s hs).1

lemma key_render {text : List Char} {a : Alternative} (ha : a ∈ (ofText text).alternatives) :
    key a.render = a.key := by
  rw [key, segments_render ha]
  simp [Alternative.segments]

end Keychord.TwoPhase
