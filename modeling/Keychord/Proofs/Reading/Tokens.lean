import Keychord.Proofs.Reading.Scan
import Mathlib.Data.List.Chain

/-!
# Tokens and segments

Among the tokens of a text no piece of plain text is empty and none stands next to another. So the
segments can also be collected from left to right, with a single piece of text that waits for the
next mark: when another piece comes there is none waiting that it would take the place of.
-/
namespace Keychord.Reading

/-- The token is a piece of plain text. -/
def Token.isText : Token → Bool
  | .text _ => true
  | _ => false

/-- No piece of text is empty, and no two of them stand side by side. -/
structure Spaced (tokens : List Token) : Prop where
  nonempty : ∀ chars, .text chars ∈ tokens → chars ≠ []
  apart : tokens.IsChain fun t u => ¬ (t.isText = true ∧ u.isText = true)

lemma spaced_nil : Spaced [] := ⟨by simp, .nil⟩

lemma Spaced.cons_mark {t : Token} {tokens : List Token} (ht : t.isText = false)
    (h : Spaced tokens) : Spaced (t :: tokens) where
  nonempty chars hchars := by
    rcases List.mem_cons.mp hchars with rfl | hmem
    · cases ht
    · exact h.nonempty chars hmem
  apart := by
    cases tokens with
    | nil => exact .singleton t
    | cons u tokens => exact h.apart.cons_cons (by simp [ht])

lemma Spaced.cons_text {chars : List Char} {tokens : List Token} (hchars : chars ≠ [])
    (hhead : ∀ u ∈ tokens.head?, u.isText = false) (h : Spaced tokens) :
    Spaced (.text chars :: tokens) where
  nonempty other hother := by
    rcases List.mem_cons.mp hother with heq | hmem
    · exact Token.text.inj heq ▸ hchars
    · exact h.nonempty other hmem
  apart := by
    cases tokens with
    | nil => exact .singleton _
    | cons u tokens => exact h.apart.cons_cons (by simp [hhead u rfl])

lemma Spaced.tail {t : Token} {tokens : List Token} (h : Spaced (t :: tokens)) : Spaced tokens where
  nonempty chars hchars := h.nonempty chars (List.mem_cons_of_mem t hchars)
  apart := h.apart.tail

/-- Behind a piece of text there is a mark, or nothing. -/
lemma Spaced.head_of_text {chars : List Char} {tokens : List Token}
    (h : Spaced (.text chars :: tokens)) : ∀ u ∈ tokens.head?, u.isText = false := by
  intro u hu
  cases tokens with
  | nil => simp at hu
  | cons v tokens =>
      obtain rfl : v = u := by simpa using hu
      have hpair := (List.isChain_cons_cons.mp h.apart).1
      simpa [Token.isText] using hpair

/-- A character that is glued on goes into the first piece of text, or becomes one in front of a
mark. -/
lemma Spaced.glue {tokens : List Token} (h : Spaced tokens) (c : Char) :
    Spaced (glue c tokens) := by
  cases tokens with
  | nil => exact .cons_text (List.cons_ne_nil c []) (by simp) spaced_nil
  | cons t tokens =>
      cases t with
      | text chars => exact .cons_text (List.cons_ne_nil c chars) h.head_of_text h.tail
      | plus => exact .cons_text (List.cons_ne_nil c []) (by simp [Token.isText]) h
      | or o r => exact .cons_text (List.cons_ne_nil c []) (by simp [Token.isText]) h

theorem spaced_scanFrom (inside : ℕ) (text : List Char) : Spaced (scanFrom inside text) := by
  fun_induction scanFrom inside text with
  | case1 => exact spaced_nil
  | case2 inside c rest ih => exact ih.glue c
  | case3 => exact spaced_nil.cons_mark rfl
  | case4 c hc => exact spaced_nil.glue c
  | case5 c d rest length hm ih => exact ih.glue c
  | case6 d rest hm ih => exact ih.cons_mark rfl
  | case7 c d rest hm hc hor ih => exact ih.cons_mark rfl
  | case8 c d rest hm hc hor ih => exact ih.glue c

/-- What has been collected from the tokens so far: the alternatives that are complete, the segments
of the one that is not, and the text since the last mark. -/
structure Collection where
  alternatives : List Alternative := []
  names : List (List Char) := []
  pending : List Char := []
  deriving DecidableEq

namespace Collection

/-- One more token. A piece of text takes the place of what is pending; a mark ends a segment. -/
def take (c : Collection) : Token → Collection
  | .text chars => { c with pending := chars }
  | .plus => { c with names := c.names ++ [c.pending], pending := [] }
  | .or _ _ => { alternatives := c.alternatives ++ [⟨c.names, c.pending⟩] }

/-- The collection of a list of tokens. -/
def ofTokens (tokens : List Token) : Collection := tokens.foldl take {}

/-- The end of the tokens ends the last segment and its alternative. -/
def finish (c : Collection) : List Alternative := c.alternatives ++ [⟨c.names, c.pending⟩]

lemma pending_take_of_mark (c : Collection) {t : Token} (ht : t.isText = false) :
    (c.take t).pending = [] := by
  cases t with
  | text chars => cases ht
  | plus => rfl
  | or o r => rfl

/-- When a piece of text comes, nothing is pending. -/
theorem pending_eq_nil {before after : List Token} {chars : List Char}
    (h : Spaced (before ++ .text chars :: after)) : (ofTokens before).pending = [] := by
  rcases List.eq_nil_or_concat before with rfl | ⟨init, t, rfl⟩
  · rfl
  · have hpair : [t, .text chars].IsChain fun t u => ¬ (t.isText = true ∧ u.isText = true) :=
      h.apart.infix ⟨init, after, by simp⟩
    have ht : t.isText = false := by simpa [Token.isText] using hpair
    rw [List.concat_eq_append, ofTokens, List.foldl_append]
    exact pending_take_of_mark _ ht

lemma precedeText_nil (a : Alternative) : a.precedeText [] = a := by
  obtain ⟨names, key⟩ := a
  cases names <;> rfl

lemma precedeText_precedePlus (chars : List Char) (a : Alternative) :
    a.precedePlus.precedeText chars = ⟨chars :: a.names, a.key⟩ := by
  simp [Alternative.precedePlus, Alternative.precedeText]

lemma precedeText_empty (chars : List Char) :
    Alternative.empty.precedeText chars = ⟨[], chars⟩ := by
  simp [Alternative.empty, Alternative.precedeText]

/-- The alternatives of a reading that goes on behind what has been collected. -/
def ahead (c : Collection) (r : Reading) : List Alternative :=
  let first := r.first.precedeText c.pending
  c.alternatives ++ ⟨c.names ++ first.names, first.key⟩ :: r.others.map Prod.snd

lemma finish_foldl_take (c : Collection) {tokens : List Token} (h : Spaced tokens)
    (hpending : c.pending ≠ [] → ∀ t ∈ tokens.head?, t.isText = false) :
    (tokens.foldl take c).finish = c.ahead (Reading.ofTokens tokens) := by
  induction tokens generalizing c with
  | nil => simp [finish, ahead, Reading.ofTokens, precedeText_empty]
  | cons t tokens ih =>
      rw [List.foldl_cons, ofTokens_cons]
      cases t with
      | text chars =>
          -- the only token that could take the place of pending text
          have hnone : c.pending = [] := by
            by_contra hne
            cases hpending hne _ rfl
          rw [ih _ h.tail fun _ => h.head_of_text]
          simp [take, ahead, precede, hnone, precedeText_append]
      | plus =>
          rw [ih _ h.tail fun hne => absurd rfl hne]
          simp [take, ahead, precede, precedeText_nil, precedeText_precedePlus]
      | or o r =>
          rw [ih _ h.tail fun hne => absurd rfl hne]
          simp [take, ahead, precede, precedeText_nil, precedeText_empty]

/-- Collected from left to right, the tokens of a text make up the alternatives of its reading. -/
theorem finish_ofTokens_scan (text : List Char) :
    (ofTokens (scan text)).finish = (ofText text).alternatives := by
  rw [ofTokens, scan, finish_foldl_take {} (spaced_scanFrom 0 text) fun hne => absurd rfl hne]
  simp [ahead, precedeText_nil, ofText, scan, Reading.alternatives]

end Collection
end Keychord.Reading
