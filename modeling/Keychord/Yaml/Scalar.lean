import Keychord.Yaml.Cursor

/-!
# Scalars

The text of a scalar is written plainly, between quotes, or as a block of lines. Plain and
quoted scalars may go on over several lines: a single line break between two lines reads as a
space, and further ones as themselves. Blocks keep their line breaks, or fold them between
lines that are not indented.

Reading a scalar gives its text and the place after it.
-/
namespace Keychord.Yaml

/-- Blanks and line breaks between two pieces of a scalar: the blanks, if there is no break,
and what each break reads as. -/
structure Gap where
  blanks : List Char := []
  breaks : List (List Char) := []

namespace Gap

/-- What the gap reads as between two pieces of text. -/
def text (gap : Gap) : List Char :=
  match gap.breaks with
  | [] => gap.blanks
  | first :: more =>
    if first = ['\n'] then if more.isEmpty then [' '] else more.flatten
    else first ++ more.flatten

/-- Reads on through a gap. A tab before the column `tabsFrom` is a fault once the gap has
crossed a line. The number bounds the characters read. -/
def readFrom (tabsFrom : Nat) : Nat → Gap → Cursor → Except Fault (Gap × Cursor)
  | 0, gap, here => .ok (gap, here)
  | bound + 1, gap, here =>
    match here.rest with
    | [] => .ok (gap, here)
    | c :: _ =>
      if isBlank c then
        if gap.breaks.isEmpty then
          readFrom tabsFrom bound { gap with blanks := gap.blanks ++ [c] } (here.skip 1)
        else if c = '\t' && here.column < tabsFrom then .error .tab
        else readFrom tabsFrom bound gap (here.skip 1)
      else if isBreak c then
        readFrom tabsFrom bound ⟨[], gap.breaks ++ [here.breakText]⟩ here.nextLine
      else .ok (gap, here)

def read (tabsFrom : Nat) (gap : Gap) (here : Cursor) : Except Fault (Gap × Cursor) :=
  readFrom tabsFrom here.size gap here

end Gap

namespace Plain

/-- The characters that end a plain scalar inside brackets. -/
def flowEnds : List Char := [',', '[', ']', '{', '}']

/-- A plain scalar goes on here. -/
def goesOn (inFlow : Bool) : List Char → Bool
  | [] => false
  | c :: rest =>
    !(isBlank c || isBreak c) && !(c = ':' && atGap rest) && !(inFlow && flowEnds.contains c) &&
      !(inFlow && c = ':' && rest.head?.any fun d => d = '?' || flowEnds.contains d)

/-- A colon inside brackets that is followed by one of the marks there. -/
def atStrayColon (inFlow : Bool) (here : Cursor) : Bool :=
  match here.rest with
  | ':' :: d :: _ => inFlow && (d = '?' || flowEnds.contains d)
  | _ => false

/-- Reads the pieces of a plain scalar. `pending` is the gap since the last piece; the last
result tells whether a line was crossed since then. -/
def readFrom (minColumn : Nat) (inFlow : Bool) :
    Nat → List Char → Gap → Cursor → Except Fault (List Char × Bool × Cursor)
  | 0, text, pending, here => .ok (text, !pending.breaks.isEmpty, here)
  | bound + 1, text, pending, here =>
    let stop := .ok (text, !pending.breaks.isEmpty, here)
    if here.atAnyMarker || here.peek? = some '#' then stop
    else
      let (piece, after) := here.span (goesOn inFlow)
      if atStrayColon inFlow after then .error .colonInFlow
      else
        let (text, pending) := if piece.isEmpty then (text, pending) else
          (text ++ pending.text ++ piece, {})
        if !(after.atBlank || after.atBreak) then .ok (text, !pending.breaks.isEmpty, after)
        else
          match pending.read minColumn after with
          | .error fault => .error fault
          | .ok (pending, after) =>
            if !inFlow && after.column < minColumn then .ok (text, !pending.breaks.isEmpty, after)
            else readFrom minColumn inFlow bound text pending after

/-- Reads a plain scalar whose further lines are indented at least to `minColumn`. -/
def read (minColumn : Nat) (inFlow : Bool) (here : Cursor) :
    Except Fault (String × Bool × Cursor) :=
  (readFrom minColumn inFlow here.size [] {} here).map
    fun (text, crossed, after) => (String.ofList text, crossed, after)

end Plain

namespace Quoted

/-- The characters that a letter after a backslash stands for. -/
def shortEscapes : List (Char × Char) := [
  ('0', '\x00'), ('a', '\x07'), ('b', '\x08'), ('t', '\t'), ('\t', '\t'), ('n', '\n'),
  ('v', '\x0b'), ('f', '\x0c'), ('r', '\r'), ('e', '\x1b'), (' ', ' '), ('"', '"'), ('/', '/'),
  ('\\', '\\'), ('N', '\u0085'), ('_', '\u00a0'), ('L', '\u2028'), ('P', '\u2029')]

/-- How many hexadecimal digits follow a letter after a backslash. -/
def numberEscapes : List (Char × Nat) := [('x', 2), ('u', 4), ('U', 8)]

def hexDigit? (c : Char) : Option Nat :=
  if c.isDigit then some (c.toNat - '0'.toNat)
  else if 'a' ≤ c && c ≤ 'f' then some (c.toNat - 'a'.toNat + 10)
  else if 'A' ≤ c && c ≤ 'F' then some (c.toNat - 'A'.toNat + 10)
  else none

/-- The value of hexadecimal digits. -/
def hexValue? (digits : List Char) : Option Nat :=
  digits.foldlM (fun n c => (hexDigit? c).map (16 * n + ·)) 0

/-- The character of a code point that is one. -/
def charOf? (n : Nat) : Option Char := if h : n.isValidChar then some (Char.ofNatAux n h) else none

/-- The escape sequence after a backslash: its character and its length. -/
def escape? : List Char → Option (Char × Nat)
  | [] => none
  | c :: rest =>
    match shortEscapes.lookup c, numberEscapes.lookup c with
    | some d, _ => some (d, 1)
    | none, some length =>
      if (rest.take length).length < length then none
      else do
        let value ← hexValue? (rest.take length)
        let d ← charOf? value
        return (d, length + 1)
    | none, none => none

/-- Why a piece of a quoted scalar ended. -/
inductive Stop where
  | quote
  | gap
  | escapedBreak

/-- Reads characters up to the closing quote or the next gap. -/
def readPiece (single : Bool) :
    Nat → List Char → Cursor → Except Fault (List Char × Stop × Cursor)
  | 0, text, here => .ok (text, .gap, here)
  | bound + 1, text, here =>
    match here.rest with
    | [] => .ok (text, .gap, here)
    | c :: rest =>
      if isBlank c || isBreak c then .ok (text, .gap, here)
      else if single then
        if c = '\x27' then
          if rest.head? = some '\x27' then
            readPiece single bound (text ++ ['\x27']) (here.skip 2)
          else .ok (text, .quote, here)
        else readPiece single bound (text ++ [c]) (here.skip 1)
      else if c = '"' then .ok (text, .quote, here)
      else if c = '\\' then
        if rest.head?.any isBreak then .ok (text, .escapedBreak, (here.skip 1).nextLine)
        else match escape? rest with
          | some (d, length) => readPiece single bound (text ++ [d]) (here.skip (length + 1))
          | none => .error .escape
      else readPiece single bound (text ++ [c]) (here.skip 1)

/-- Reads the pieces of a quoted scalar up to its closing quote. -/
def readFrom (single : Bool) : Nat → List Char → Cursor → Except Fault (List Char × Cursor)
  | 0, _, _ => .error .unclosedQuote
  | bound + 1, text, here =>
    if here.atAnyMarker then .error .markerInQuote
    else if here.rest.isEmpty then .error .unclosedQuote
    else
      match readPiece single here.size text here with
      | .error fault => .error fault
      | .ok (text, .quote, after) => .ok (text, after.skip 1)
      | .ok (text, stop, after) =>
        let gap : Gap := match stop with
          | .escapedBreak => { breaks := [[]] }
          | _ => {}
        match gap.read 0 after with
        | .error fault => .error fault
        | .ok (gap, after) =>
          -- an escaped break may be followed by the closing quote at once
          readFrom single bound (text ++ gap.text) after

/-- Reads a quoted scalar from its opening quote on. -/
def read (single : Bool) (here : Cursor) : Except Fault (String × Cursor) :=
  (readFrom single (here.size + 1) [] (here.skip 1)).map
    fun (text, after) => (String.ofList text, after)

end Quoted

namespace Block

/-- What becomes of the line breaks at the end. -/
inductive Chomping where
  | strip
  | clip
  | keep
  deriving DecidableEq

def chomping? (c : Char) : Option Chomping :=
  if c = '+' then some .keep else if c = '-' then some .strip else none

/-- The digit that gives the indentation; zero is refused. -/
def indentDigit? (here : Cursor) : Except Fault (Option Nat × Cursor) :=
  match here.peek? with
  | some c =>
    if c = '0' then .error .blockHeader
    else if c.isDigit then .ok (some (c.toNat - '0'.toNat), here.skip 1)
    else .ok (none, here)
  | none => .ok (none, here)

/-- The sign for the line breaks at the end. -/
def chompingSign? (here : Cursor) : Option Chomping × Cursor :=
  match here.peek?.bind chomping? with
  | some chomping => (some chomping, here.skip 1)
  | none => (none, here)

/-- Reads the signs after the indicator, in either order. -/
def header (here : Cursor) : Except Fault (Chomping × Option Nat × Cursor) := do
  match chompingSign? here with
  | (some chomping, here) =>
    let (digit, here) ← indentDigit? here
    return (chomping, digit, here)
  | (none, here) =>
    let (digit, here) ← indentDigit? here
    match digit with
    | none => return (.clip, none, here)
    | some _ =>
      let (chomping, here) := chompingSign? here
      return (chomping.getD .clip, digit, here)

/-- Passes blanks and a comment to the end of the line and the line break. -/
def endLine (here : Cursor) : Except Fault Cursor :=
  let here := (here.spanChars isBlank).2
  let here := if here.peek? = some '#' then (here.spanChars (!isBreak ·)).2 else here
  if here.rest.isEmpty then .ok here
  else if here.atBreak then .ok here.nextLine
  else .error .blockHeader

/-- Passes the indentation and the empty lines before a line of the block, gathering what the
breaks read as. Before the indentation is known, zero stands for it, and the widest
indentation of an empty line is kept. -/
def emptyLines (indent : Nat) :
    Nat → Nat → List Char → Cursor → Except Fault (Nat × List Char × Cursor)
  | 0, widest, breaks, here => .ok (widest, breaks, here)
  | bound + 1, widest, breaks, here =>
    let spaces := takeSpaces here
    let here := here.skip spaces
    let widest := max widest here.column
    if (indent = 0 || here.column < indent) && here.peek? = some '\t' then .error .tab
    else if here.atBreak then
      emptyLines indent bound widest (breaks ++ here.breakText) here.nextLine
    else .ok (widest, breaks, here)
where
  /-- How many spaces belong to the indentation. -/
  takeSpaces (here : Cursor) : Nat :=
    let spaces := (here.rest.takeWhile (· = ' ')).length
    if indent = 0 then spaces else min spaces (indent - here.column)

/-- The lines of a block so far: their text, the break after the last line, the breaks of the
empty lines after it, and whether the last line began with a blank. -/
structure Lines where
  text : List Char := []
  lastBreak : List Char := []
  emptyBreaks : List Char := []
  indented : Bool := false

namespace Lines

/-- Adds a line. The break before it is folded between two lines that are not indented. -/
def add (literal : Bool) (line : List Char) (indented : Bool) (lines : Lines) : List Char :=
  let join :=
    if !literal && lines.lastBreak = ['\n'] && !lines.indented && !indented then
      if lines.emptyBreaks.isEmpty then [' '] else []
    else lines.lastBreak
  lines.text ++ join ++ lines.emptyBreaks ++ line

/-- The text of the whole block. -/
def finish (chomping : Chomping) (lines : Lines) : List Char :=
  lines.text ++ (if chomping = .strip then [] else lines.lastBreak) ++
    (if chomping = .keep then lines.emptyBreaks else [])

end Lines

/-- Reads the lines of a block that is indented to this column. -/
def readLines (literal : Bool) (indent : Nat) :
    Nat → Lines → Cursor → Except Fault (Lines × Cursor)
  | 0, lines, here => .ok (lines, here)
  | bound + 1, lines, here =>
    if here.column = indent && !here.rest.isEmpty then
      let indented := here.atBlank
      let (line, after) := here.spanChars (!isBreak ·)
      let lastBreak := after.breakText
      let after := if after.atBreak then after.nextLine else after
      match emptyLines indent (after.size + 1) 0 [] after with
      | .error fault => .error fault
      | .ok (_, emptyBreaks, after) =>
        readLines literal indent bound
          ⟨lines.add literal line indented, lastBreak, emptyBreaks, indented⟩ after
    else .ok (lines, here)

/-- Reads a block scalar from its indicator on. `parent` is the column that a block inside
the surrounding one has to be indented beyond, counted from one. -/
def read (literal : Bool) (parent : Nat) (here : Cursor) : Except Fault (String × Cursor) := do
  let (chomping, digit, here) ← header (here.skip 1)
  let here ← endLine here
  let given := match digit with
    | some n => (parent - 1) + n
    | none => 0
  let (widest, breaks, here) ← emptyLines given (here.size + 1) 0 [] here
  let indent := if given = 0 then max widest (max parent 1) else given
  let (lines, here) ←
    readLines literal indent (here.size + 1) { emptyBreaks := breaks } here
  return (String.ofList (lines.finish chomping), here)

end Block
end Keychord.Yaml
