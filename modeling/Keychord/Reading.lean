import Keychord.Reading.Token

/-!
# A shortcut's text, read

A reading divides a text into alternatives and each alternative into segments. The last
segment of an alternative is its key, those before it are the names of modifiers; segments
may be empty, so every text has a reading. How each `or` was spelled is kept, and writing
the reading down again gives the text.
-/
namespace Keychord

/-- The segments of one alternative, the last one apart. -/
structure Alternative where
  names : List (List Char)
  key : List Char
  deriving DecidableEq

namespace Alternative

def empty : Alternative := ⟨[], []⟩

/-- All segments in order. -/
def segments (a : Alternative) : List (List Char) := a.names ++ [a.key]

/-- The segments joined by `+`. -/
def render (a : Alternative) : List Char := a.names.flatMap (· ++ ['+']) ++ a.key

/-- Puts text at the front of the first segment. -/
def precedeText (chars : List Char) (a : Alternative) : Alternative :=
  match a.names with
  | [] => { a with key := chars ++ a.key }
  | name :: names => { a with names := (chars ++ name) :: names }

/-- Puts an empty segment in front. -/
def precedePlus (a : Alternative) : Alternative := { a with names := [] :: a.names }

@[simp] theorem render_empty : empty.render = [] := rfl

@[simp] theorem render_precedeText (chars : List Char) (a : Alternative) :
    (a.precedeText chars).render = chars ++ a.render := by
  unfold precedeText
  split <;> simp_all [render]

@[simp] theorem render_precedePlus (a : Alternative) : a.precedePlus.render = '+' :: a.render := by
  simp [render, precedePlus]

end Alternative

/-- One or more alternatives; each but the first comes with the letters of the `or` that
stands before it. -/
structure Reading where
  first : Alternative
  others : List ((Char × Char) × Alternative)
  deriving DecidableEq

namespace Reading

def alternatives (r : Reading) : List Alternative := r.first :: r.others.map Prod.snd

/-- The text that the reading is of. -/
def render (r : Reading) : List Char :=
  r.first.render ++ r.others.flatMap fun ((o, r), a) => o :: r :: a.render

/-- Puts one token in front of a reading. -/
def precede (r : Reading) : Token → Reading
  | .text chars => { r with first := r.first.precedeText chars }
  | .plus => { r with first := r.first.precedePlus }
  | .or o t => ⟨.empty, ((o, t), r.first) :: r.others⟩

/-- The reading of a list of tokens, built from its end. -/
def ofTokens (tokens : List Token) : Reading :=
  tokens.foldr (fun t r => r.precede t) ⟨.empty, []⟩

/-- The reading of a text. -/
def ofText (text : List Char) : Reading := ofTokens (scan text)

@[simp] theorem render_precede (r : Reading) (t : Token) :
    (r.precede t).render = t.chars ++ r.render := by
  cases t <;> simp [precede, render, Token.chars]

theorem render_ofTokens (tokens : List Token) :
    (ofTokens tokens).render = tokens.flatMap Token.chars := by
  induction tokens with
  | nil => rfl
  | cons t tokens ih => simpa [ofTokens] using ih

/-- Reading and writing down again gives the text back. -/
theorem render_ofText (text : List Char) : (ofText text).render = text := by
  rw [ofText, render_ofTokens, scan, flatMap_chars_scanFrom]

end Reading
end Keychord
