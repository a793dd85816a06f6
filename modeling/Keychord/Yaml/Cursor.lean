/-!
# A place in a YAML text

A cursor is what is left of a text together with the place reached: how many bytes were
passed, and the line and column. Columns count characters and matter, since the layout of a
text is given by them. Line breaks come in several forms; most of them read as a line feed,
the two Unicode separators as themselves.
-/
namespace Keychord.Yaml

/-- What can be wrong with a text before its content is looked at. -/
inductive Fault where
  | character
  | tab
  | directive
  | indicator
  | entryPlace
  | keyPlace
  | valuePlace
  | colonMissing
  | colonInFlow
  | anchorName
  | tagText
  | blockHeader
  | escape
  | unclosedQuote
  | markerInQuote
  deriving DecidableEq

def Fault.message : Fault → String
  | character => "control characters are not allowed"
  | tab => "a tab stands where indentation is expected"
  | directive => "the directive is not well formed"
  | indicator => "no token starts with this character"
  | entryPlace => "a block sequence entry is not allowed here"
  | keyPlace => "a mapping key is not allowed here"
  | valuePlace => "a mapping value is not allowed here"
  | colonMissing => "the key has no colon after it"
  | colonInFlow => "the colon is not expected here"
  | anchorName => "the anchor's name is not well formed"
  | tagText => "the tag is not well formed"
  | blockHeader => "the header of the block scalar is not well formed"
  | escape => "the escape sequence is not known"
  | unclosedQuote => "the quoted scalar is not closed"
  | markerInQuote => "a document marker stands inside a quoted scalar"

/-- Characters that may stand in a text at all. -/
def isAllowed (c : Char) : Bool :=
  let n := c.toNat
  n = 0x9 || n = 0xA || n = 0xD || (0x20 ≤ n && n ≤ 0x7E) || n = 0x85 ||
    (0xA0 ≤ n && n ≤ 0xD7FF) || (0xE000 ≤ n && n ≤ 0xFFFD) || 0x10000 ≤ n

def isBreak (c : Char) : Bool :=
  c = '\n' || c = '\r' || c = '\u0085' || c = '\u2028' || c = '\u2029'

def isBlank (c : Char) : Bool := c = ' ' || c = '\t'

/-- The text ends here, or goes on with a blank or a line break. -/
def atGap : List Char → Bool
  | [] => true
  | c :: _ => isBlank c || isBreak c

/-- Letters, digits, hyphen and underscore: what names are made of. -/
def isNameChar (c : Char) : Bool := c.isAlphanum || c = '-' || c = '_'

/-- A line and a column, both counted from zero. -/
structure Position where
  line : Nat := 0
  column : Nat := 0
  deriving DecidableEq

/-- The position in words, where counting begins with one. -/
def Position.display (p : Position) : String :=
  "line " ++ (p.line + 1).repr ++ " column " ++ (p.column + 1).repr

/-- How many bytes the encoding of a text has. -/
def byteLength (text : List Char) : Nat := text.foldl (fun n c => n + c.utf8Size) 0

/-- What is left of a text and the place reached. `size` is the length of the whole text, which
bounds every walk over what is left. -/
structure Cursor where
  rest : List Char
  size : Nat := rest.length
  index : Nat := 0
  line : Nat := 0
  column : Nat := 0

namespace Cursor

def position (here : Cursor) : Position := ⟨here.line, here.column⟩

/-- The next character, if there is one. -/
def peek? (here : Cursor) : Option Char := here.rest.head?

/-- Passes `n` characters of a line. -/
def skip (n : Nat) (here : Cursor) : Cursor :=
  { here with
    rest := here.rest.drop n
    index := here.index + byteLength (here.rest.take n)
    column := here.column + n }

/-- Passes a line break. -/
def nextLine (here : Cursor) : Cursor :=
  let length := match here.rest with
    | '\r' :: '\n' :: _ => 2
    | _ => 1
  { here with
    rest := here.rest.drop length
    index := here.index + byteLength (here.rest.take length)
    line := here.line + 1
    column := 0 }

/-- What the line break at the cursor reads as. -/
def breakText (here : Cursor) : List Char :=
  match here.rest with
  | c :: _ => if c = '\u2028' || c = '\u2029' then [c] else ['\n']
  | [] => []

/-- The longest beginning of a text each of whose tails is kept. -/
def takeTails (keep : List Char → Bool) : List Char → List Char
  | [] => []
  | c :: rest => if keep (c :: rest) then c :: takeTails keep rest else []

/-- Passes characters of a line for as long as what is left is kept. -/
def span (keep : List Char → Bool) (here : Cursor) : List Char × Cursor :=
  let taken := takeTails keep here.rest
  (taken, here.skip taken.length)

/-- Passes characters of a line for as long as they have the property. -/
def spanChars (keep : Char → Bool) (here : Cursor) : List Char × Cursor :=
  here.span fun
    | c :: _ => keep c
    | [] => false

/-- One of the markers `---` and `...`, at the beginning of a line and followed by a gap. -/
def atMarker (marker : Char) (here : Cursor) : Bool :=
  here.column = 0 && List.replicate 3 marker == here.rest.take 3 && atGap (here.rest.drop 3)

def atAnyMarker (here : Cursor) : Bool := here.atMarker '-' || here.atMarker '.'

/-- A space or a tab at the cursor. -/
def atBlank (here : Cursor) : Bool := here.peek?.any isBlank

def atBreak (here : Cursor) : Bool := here.peek?.any isBreak

end Cursor
end Keychord.Yaml
