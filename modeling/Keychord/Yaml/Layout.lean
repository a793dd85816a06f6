import Keychord.Yaml.Token

/-!
# Layout

Which collections begin and end where is for the most part given by indentation, and what is
a mapping key only shows when its colon is reached. The layout is worked out from left to
right: the columns of the open block collections, the depth of open brackets, and for each
depth the place of a token that may still turn out to be a key. When it does, the mark of
the key, and the beginning of a mapping if the key is its first, are put in front of it.

A token that may still turn out to be a key is not given out, nor is any after it. If a text
is at fault somewhere, the tokens given out before are kept, since they are what a reader
has seen by then.
-/
namespace Keychord.Yaml

/-- A token that may turn out to be a key: how many tokens stand before it, where it begins, and
whether it has to be a key since its line begins at the column of a mapping. -/
structure KeyCandidate where
  number : Nat
  index : Nat
  start : Position
  required : Bool

/-- How far the layout is worked out. Columns count from one, so that zero stands for no open
block collection; `tokens` has the latest first and `count` is their number; `candidates` has
one place for the block level and one for each open bracket, innermost first. -/
structure Layout where
  here : Cursor
  tokens : List PlacedToken := []
  count : Nat := 0
  indent : Nat := 0
  outer : List Nat := []
  candidates : List (Option KeyCandidate) := [none]
  keyAllowed : Bool := true
  ended : Bool := false

namespace Layout

/-- Some bracket is open. -/
def inFlow (l : Layout) : Bool :=
  match l.candidates with
  | _ :: _ :: _ => true
  | _ => false

/-- The column reached, counted from one. -/
def column (l : Layout) : Nat := l.here.column + 1

/-- Adds a token that begins at the cursor. -/
def push (token : Token) (l : Layout) : Layout :=
  { l with tokens := ⟨token, l.here.position⟩ :: l.tokens, count := l.count + 1 }

/-- Puts a token behind the first `number` ones. -/
def insert (number : Nat) (token : PlacedToken) (l : Layout) : Layout :=
  let later := l.count - number
  { l with
    tokens := l.tokens.take later ++ token :: l.tokens.drop later
    count := l.count + 1 }

/-- How many tokens stand before the first one that may still turn out to be a key. -/
def settled (l : Layout) : Nat :=
  (l.candidates.filterMap (·.map KeyCandidate.number)).foldl min l.count

/-- The tokens given out. -/
def given (l : Layout) : List PlacedToken := l.tokens.reverse.take l.settled

/-- A candidate is lost when its line ends or it gets long. -/
def isStale (l : Layout) (c : KeyCandidate) : Bool :=
  c.start.line < l.here.line || c.index + 1024 < l.here.index

/-- Forgets the candidates that are lost; losing one that had to be a key is a fault. -/
def dropStale (l : Layout) : Except Fault Layout :=
  let isLost (c : Option KeyCandidate) : Bool := c.any l.isStale
  if l.candidates.any fun c => isLost c && c.any (·.required) then .error .colonMissing
  else if l.candidates.any isLost then
    .ok { l with candidates := l.candidates.map fun c => if isLost c then none else c }
  else .ok l

/-- Gives up the innermost candidate. -/
def giveUpKey (l : Layout) : Except Fault Layout :=
  match l.candidates with
  | some c :: rest =>
    if c.required then .error .colonMissing else .ok { l with candidates := none :: rest }
  | _ => .ok l

/-- The token that begins here may turn out to be a key, if keys are allowed here. -/
def markKey (l : Layout) : Except Fault Layout :=
  if l.keyAllowed then do
    let required := !l.inFlow && l.indent = l.column
    let l ← l.giveUpKey
    let candidate := ⟨l.count, l.here.index, l.here.position, required⟩
    .ok { l with candidates := some candidate :: l.candidates.drop 1 }
  else .ok l

/-- Opens a block collection at a place whose column lies beyond the open ones; its token goes
behind the first `number` tokens. -/
def openBlock (start : Position) (number : Nat) (token : Token) (l : Layout) : Layout :=
  let column := start.column + 1
  if !l.inFlow && l.indent < column then
    { l with indent := column, outer := l.indent :: l.outer }.insert number ⟨token, start⟩
  else l

/-- Opens a block collection at the cursor. -/
def openBlockHere (token : Token) (l : Layout) : Layout :=
  l.openBlock l.here.position l.count token

/-- Closes the block collections that lie beyond a column. -/
def closeBlocks (column : Nat) (l : Layout) : Layout :=
  if l.inFlow then l else close l.indent l.outer l
where
  /-- Closes collections one by one, the innermost at column `indent`. -/
  close (indent : Nat) : List Nat → Layout → Layout
    | [], l => { l with indent, outer := [] }
    | next :: outer, l =>
      if column < indent then close next outer (l.push .blockEnd)
      else { l with indent, outer := next :: outer }

/-- Passes blanks, comments and line breaks up to the next token, and byte order marks that begin
a line. A tab counts as a blank only where no key may begin. The number bounds the lines
passed. -/
def passGaps : Nat → Layout → Layout
  | 0, l => l
  | bound + 1, l =>
    let tabs := l.inFlow || !l.keyAllowed
    let atMark := l.here.column = 0 && l.here.peek? = some '\ufeff'
    let here := if atMark then l.here.skip 1 else l.here
    let here := (here.spanChars fun c => c = ' ' || (tabs && c = '\t')).2
    let here := if here.peek? = some '#' then (here.spanChars (!isBreak ·)).2 else here
    if here.atBreak then
      passGaps bound { l with here := here.nextLine, keyAllowed := l.keyAllowed || !l.inFlow }
    else { l with here }

/-- A token for the next `length` characters. -/
def take (length : Nat) (token : Token) (l : Layout) : Layout :=
  { l.push token with here := l.here.skip length }

/-- The end of the text, which also ends its last line: all block collections are closed. -/
def endStream (l : Layout) : Except Fault Layout := do
  let here := if l.here.column = 0 then l.here else l.here.nextLine
  let l ← ({ l with here }.closeBlocks 0).giveUpKey
  .ok { l.push .streamEnd with keyAllowed := false, ended := true }

def directive (l : Layout) : Except Fault Layout := do
  let l ← (l.closeBlocks 0).giveUpKey
  let (token, here) ← Token.readDirective l.here
  .ok { l.push token with here, keyAllowed := false }

def documentMarker (token : Token) (l : Layout) : Except Fault Layout := do
  let l ← (l.closeBlocks 0).giveUpKey
  .ok { l.take 3 token with keyAllowed := false }

def openFlow (token : Token) (l : Layout) : Except Fault Layout := do
  let l ← l.markKey
  .ok { l.take 1 token with candidates := none :: l.candidates, keyAllowed := true }

def closeFlow (token : Token) (l : Layout) : Except Fault Layout := do
  let l ← l.giveUpKey
  let candidates := if l.inFlow then l.candidates.drop 1 else l.candidates
  .ok { l.take 1 token with candidates, keyAllowed := false }

def flowEntry (l : Layout) : Except Fault Layout := do
  let l ← l.giveUpKey
  .ok { l.take 1 .flowEntry with keyAllowed := true }

def blockEntry (l : Layout) : Except Fault Layout := do
  if !l.inFlow && !l.keyAllowed then .error .entryPlace
  else
    let l ← (l.openBlockHere .blockSequenceStart).giveUpKey
    .ok { l.take 1 .blockEntry with keyAllowed := true }

def keyMark (l : Layout) : Except Fault Layout := do
  if !l.inFlow && !l.keyAllowed then .error .keyPlace
  else
    let l ← (l.openBlockHere .blockMappingStart).giveUpKey
    .ok { l.take 1 .key with keyAllowed := !l.inFlow }

/-- The colon after a key. The candidate at this depth becomes the key; without one the key is
empty, or was marked. -/
def valueMark (l : Layout) : Except Fault Layout :=
  match l.candidates with
  | some c :: rest =>
    let l := { l with candidates := none :: rest }.insert c.number ⟨.key, c.start⟩
    let l := l.openBlock c.start c.number .blockMappingStart
    .ok { l.take 1 .value with keyAllowed := false }
  | _ =>
    if !l.inFlow && !l.keyAllowed then .error .valuePlace
    else
      let l := l.openBlockHere .blockMappingStart
      .ok { l.take 1 .value with keyAllowed := !l.inFlow }

def anchorOrAlias (token : String → Token) (l : Layout) : Except Fault Layout := do
  let l ← l.markKey
  let (name, here) ← Token.readName l.here
  .ok { l.push (token name) with here, keyAllowed := false }

def tag (l : Layout) : Except Fault Layout := do
  let l ← l.markKey
  let (token, here) ← Token.readTag l.inFlow l.here
  .ok { l.push token with here, keyAllowed := false }

def blockScalar (literal : Bool) (l : Layout) : Except Fault Layout := do
  let l ← l.giveUpKey
  let (text, here) ← Block.read literal l.indent l.here
  .ok { l.push (.scalar false text) with here, keyAllowed := true }

def quotedScalar (single : Bool) (l : Layout) : Except Fault Layout := do
  let l ← l.markKey
  let (text, here) ← Quoted.read single l.here
  .ok { l.push (.scalar false text) with here, keyAllowed := false }

def plainScalar (l : Layout) : Except Fault Layout := do
  let l ← l.markKey
  let (text, crossed, here) ← Plain.read l.indent l.inFlow l.here
  .ok { l.push (.scalar true text) with here, keyAllowed := crossed }

/-- Characters that a plain scalar does not begin with, unless one of the exceptions holds. -/
def indicators : List Char := [
  '-', '?', ':', ',', '[', ']', '{', '}', '#', '&', '*', '!', '|', '>', '\x27', '"', '%', '@',
  '\x60']

/-- The next token, which begins at the cursor with `c`. -/
def tokenAt (c : Char) (l : Layout) : Except Fault Layout :=
  let rest := l.here.rest.drop 1
  if l.here.column = 0 && c = '%' then l.directive
  else if l.here.atMarker '-' then l.documentMarker .documentStart
  else if l.here.atMarker '.' then l.documentMarker .documentEnd
  else if c = '[' then l.openFlow .flowSequenceStart
  else if c = '{' then l.openFlow .flowMappingStart
  else if c = ']' then l.closeFlow .flowSequenceEnd
  else if c = '}' then l.closeFlow .flowMappingEnd
  else if c = ',' then l.flowEntry
  else if c = '-' && atGap rest then l.blockEntry
  else if c = '?' && (l.inFlow || atGap rest) then l.keyMark
  else if c = ':' && (l.inFlow || atGap rest) then l.valueMark
  else if c = '*' then l.anchorOrAlias .alias
  else if c = '&' then l.anchorOrAlias .anchor
  else if c = '!' then l.tag
  else if c = '|' && !l.inFlow then l.blockScalar true
  else if c = '>' && !l.inFlow then l.blockScalar false
  else if c = '\x27' then l.quotedScalar true
  else if c = '"' then l.quotedScalar false
  else if !(isBlank c || indicators.contains c) || (c = '-' && !rest.head?.any isBlank) ||
      (!l.inFlow && (c = '?' || c = ':') && !atGap rest) then l.plainScalar
  else .error .indicator

/-- Works out the layout up to the next token, that one included. -/
def next (l : Layout) : Except Fault Layout := do
  let l ← (l.passGaps (l.here.size + 1)).dropStale
  let l := l.closeBlocks l.column
  match l.here.peek? with
  | some c => l.tokenAt c
  | none => l.endStream

/-- Works out the layout up to the next token and forgets the candidates that are lost by then.
If one of them had to be a key, nothing that was worked out in this step is given out. -/
def step (l : Layout) : Except Fault Layout := do (← l.next).dropStale

/-- Works out the rest of the layout, and gives out the tokens up to its end or a fault. It is a
fault to reach the byte `wall`, if there is one. The first number bounds the tokens read. -/
def finish (wall : Option Nat) : Nat → Layout → List PlacedToken × Option Fault
  | 0, l => (l.given, none)
  | bound + 1, l =>
    if l.ended then (l.given, none)
    else
      match l.step with
      | .error fault => (l.given, some fault)
      | .ok next =>
        if wall.any (· ≤ next.here.index) then (l.given, some .character)
        else finish wall bound next

end Layout

/-- A text is taken in pieces of at most this many bytes. -/
def pieceSize : Nat := 16384

/-- The byte where the piece begins that holds the first character which is not allowed. The
piece taken last begins at `start`. -/
def faultyPiece? (start offset : Nat) : List Char → Option Nat
  | [] => none
  | c :: rest =>
    let after := offset + c.utf8Size
    let start := if start + pieceSize < after then offset else start
    if isAllowed c then faultyPiece? start after rest else some start

/-- The tokens of a text, up to a fault in it if there is one. A character that is not allowed is
a fault of the whole piece it stands in. -/
def tokensOf (text : List Char) : List PlacedToken × Option Fault :=
  Layout.finish (faultyPiece? 0 0 text) (text.length + 1) { here := { rest := text } }

end Keychord.Yaml
