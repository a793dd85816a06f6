import Keychord.Text.Case

/-!
# The marks in a shortcut's text

A shortcut is text cut by two marks: `+` between the parts of a combination and `or`, in any
case of its two letters, between alternatives. The mark `or` counts inside a word too, with
one exception: the two long spellings of "command or control" are single words, and nothing
inside them is a mark. The marks are found from left to right.

Text between marks becomes one token, never empty and never next to another.
-/
namespace Keychord.Reading

open Text

inductive Token where
  | text (chars : List Char)
  | plus
  | or (o r : Char)
  deriving DecidableEq

namespace Token

/-- The characters that the token was read from. -/
def chars : Token → List Char
  | text chars => chars
  | plus => ['+']
  | or o r => [o, r]

end Token

/-- The words that are never cut, the longer one first. -/
def compounds : List (List Char) := ["commandorcontrol".toList, "cmdorctrl".toList]

/-- The text begins with this lower-case word, the case of ASCII letters aside. -/
def beginsWith : List Char → List Char → Bool
  | [], _ => true
  | _ :: _, [] => false
  | w :: word, c :: rest => asciiLower c == w && beginsWith word rest

/-- The length of the uncut word that the text begins with. -/
def compoundLength? (text : List Char) : Option Nat :=
  (compounds.find? (beginsWith · text)).map List.length

/-- The two characters spell `or`. -/
def isOr (o r : Char) : Bool := asciiLower o == 'o' && asciiLower r == 'r'

/-- Puts a character of plain text in front of the tokens. -/
def glue (c : Char) : List Token → List Token
  | .text chars :: tokens => .text (c :: chars) :: tokens
  | tokens => .text [c] :: tokens

/-- The tokens of a text whose first `inside` characters end an uncut word. -/
def scanFrom : Nat → List Char → List Token
  | _, [] => []
  | inside + 1, c :: rest => glue c (scanFrom inside rest)
  | 0, [c] => if c = '+' then [.plus] else [.text [c]]
  | 0, c :: d :: rest =>
    match compoundLength? (c :: d :: rest) with
    | some length => glue c (scanFrom (length - 1) (d :: rest))
    | none =>
      if c = '+' then .plus :: scanFrom 0 (d :: rest)
      else if isOr c d then .or c d :: scanFrom 0 rest
      else glue c (scanFrom 0 (d :: rest))

/-- The tokens of a text. -/
def scan (text : List Char) : List Token := scanFrom 0 text

@[simp] theorem flatMap_chars_glue (c : Char) (tokens : List Token) :
    (glue c tokens).flatMap Token.chars = c :: tokens.flatMap Token.chars := by
  unfold glue
  split <;> simp [Token.chars]

/-- No character is lost: the tokens spell the text. -/
theorem flatMap_chars_scanFrom (inside : Nat) (text : List Char) :
    (scanFrom inside text).flatMap Token.chars = text := by
  fun_induction scanFrom inside text <;> simp_all [Token.chars]

end Keychord.Reading
