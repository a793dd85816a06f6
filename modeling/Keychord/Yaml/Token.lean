import Keychord.Yaml.Scalar

/-!
# Tokens of a YAML text

Between the characters of a text and the nodes it describes stand tokens: marks, scalars,
names, and the beginnings and ends of collections, those that the layout implies included.
A well-formed text has the end of the stream as its last token.

Anchors, aliases, tags and directives are read here; which tokens the layout gives rise to is
not.
-/
namespace Keychord.Yaml

inductive Token where
  | version (major minor : Nat)
  | tagHandle (handle : String) (uri : List UInt8)
  | documentStart
  | documentEnd
  | streamEnd
  | blockSequenceStart
  | blockMappingStart
  | blockEnd
  | flowSequenceStart
  | flowSequenceEnd
  | flowMappingStart
  | flowMappingEnd
  | blockEntry
  | flowEntry
  | key
  | value
  | alias (name : String)
  | anchor (name : String)
  | tag (handle : String) (suffix : List UInt8)
  | scalar (plain : Bool) (text : String)
  deriving DecidableEq

/-- A token and where it begins. -/
structure PlacedToken where
  token : Token
  start : Position

namespace Token

/-- Reads the name of an anchor or alias from its mark on. -/
def readName (here : Cursor) : Except Fault (String × Cursor) :=
  let (name, after) := (here.skip 1).spanChars isNameChar
  let closed := atGap after.rest ||
    after.peek?.any fun c => ['?', ':', ',', ']', '}', '%', '@', '\x60'].contains c
  if name.isEmpty || !closed then .error .anchorName else .ok (String.ofList name, after)

/-- Characters of a tag, besides those of names. -/
def tagMarks : List Char := [
  ';', '/', '?', ':', '@', '&', '=', '+', '$', '.', '%', '!', '~', '*', '\x27', '(', ')']

/-- Characters that only a tag between angle brackets may have. -/
def bracketMarks : List Char := [',', '[', ']']

/-- The byte of an escape in a tag: a percent sign and two hexadecimal digits. -/
def escapedByte? : List Char → Option UInt8
  | '%' :: a :: b :: _ => (Quoted.hexValue? [a, b]).map Nat.toUInt8
  | _ => none

/-- How many bytes the encoding of a character has that begins with this byte. -/
def encodedLength? (byte : UInt8) : Option Nat :=
  if byte < 0x80 then some 1
  else if byte / 0x20 = 0x6 then some 2
  else if byte / 0x10 = 0xE then some 3
  else if byte / 0x8 = 0x1E then some 4
  else none

/-- Reads the further bytes of an escaped character. -/
def trailingBytes : Nat → Cursor → Except Fault (List UInt8 × Cursor)
  | 0, here => .ok ([], here)
  | more + 1, here =>
    match escapedByte? here.rest with
    | some byte =>
      if byte / 0x40 = 2 then
        (trailingBytes more (here.skip 3)).map fun (bytes, after) => (byte :: bytes, after)
      else .error .tagText
    | none => .error .tagText

/-- Reads the bytes of one character written as escapes. Only their number and their leading
bits are looked at. -/
def escapedChar (here : Cursor) : Except Fault (List UInt8 × Cursor) :=
  match escapedByte? here.rest with
  | none => .error .tagText
  | some byte =>
    match encodedLength? byte with
    | none => .error .tagText
    | some length =>
      (trailingBytes (length - 1) (here.skip 3)).map fun (bytes, after) => (byte :: bytes, after)

/-- Reads the bytes of a tag. -/
def readTagText (bracketed : Bool) : Nat → List UInt8 → Cursor → Except Fault (List UInt8 × Cursor)
  | 0, text, here => .ok (text, here)
  | bound + 1, text, here =>
    match here.peek? with
    | some c =>
      if c = '%' then
        match escapedChar here with
        | .ok (bytes, after) => readTagText bracketed bound (text ++ bytes) after
        | .error fault => .error fault
      else if isNameChar c || tagMarks.contains c || (bracketed && bracketMarks.contains c) then
        readTagText bracketed bound (text ++ [c.toUInt8]) (here.skip 1)
      else .ok (text, here)
    | none => .ok (text, here)

def tagText (bracketed : Bool) (here : Cursor) : Except Fault (List UInt8 × Cursor) :=
  readTagText bracketed here.size [] here

/-- What of the bytes of a tag counts: a zero byte ends it. -/
def upToZero (bytes : List UInt8) : List UInt8 := bytes.takeWhile (· ≠ 0)

/-- Reads an exclamation mark, the name after it, and the mark that closes it, if any. -/
def readHandle (here : Cursor) : List Char × Cursor :=
  let (name, after) := (here.skip 1).spanChars isNameChar
  if after.peek? = some '!' then ('!' :: name ++ ['!'], after.skip 1) else ('!' :: name, after)

/-- The handle names a directive or the standard tags, rather than being a tag itself. -/
def isHandle (handle : List Char) : Bool :=
  handle.length > 1 && handle.getLast? = some '!'

/-- Reads a tag. One between angle brackets has no handle; one without a name is the mark
alone. -/
def readTag (inFlow : Bool) (here : Cursor) : Except Fault (Token × Cursor) := do
  let (token, after) ←
    if (here.skip 1).peek? = some '<' then do
      let (text, after) ← tagText true (here.skip 2)
      if text.isEmpty || after.peek? ≠ some '>' then .error .tagText
      else .ok (Token.tag "" (upToZero text), after.skip 1)
    else
      let (handle, after) := readHandle here
      if isHandle handle then do
        let (text, after) ← tagText false after
        if text.isEmpty then .error .tagText
        else .ok (Token.tag (String.ofList handle) (upToZero text), after)
      else do
        let (more, after) ← tagText false after
        let text := upToZero ((handle.drop 1).map Char.toUInt8 ++ more)
        .ok (if text.isEmpty then Token.tag "" ['!'.toUInt8] else Token.tag "!" text, after)
  if atGap after.rest || (inFlow && after.peek? = some ',') then .ok (token, after)
  else .error .tagText

/-- Reads a number of at most nine digits. -/
def readNumber (here : Cursor) : Except Fault (Nat × Cursor) :=
  let (digits, after) := here.spanChars Char.isDigit
  if digits.isEmpty || digits.length > 9 then .error .directive
  else .ok (digits.foldl (fun n c => 10 * n + (c.toNat - '0'.toNat)) 0, after)

/-- Passes blanks, of which there must be one. -/
def passBlanks (here : Cursor) : Except Fault Cursor :=
  if here.atBlank then .ok (here.spanChars isBlank).2 else .error .directive

/-- Reads what follows the name of a version directive. -/
def readVersion (here : Cursor) : Except Fault (Token × Cursor) := do
  let (major, here) ← readNumber (here.spanChars isBlank).2
  if here.peek? ≠ some '.' then .error .directive
  else
    let (minor, here) ← readNumber (here.skip 1)
    .ok (.version major minor, here)

/-- Reads what follows the name of a tag directive. -/
def readTagHandle (here : Cursor) : Except Fault (Token × Cursor) := do
  let here := (here.spanChars isBlank).2
  if here.peek? ≠ some '!' then .error .directive
  else
    let (handle, here) := readHandle here
    if handle ≠ ['!'] && !isHandle handle then .error .directive
    else
      let here ← passBlanks here
      let (uri, here) ← tagText true here
      if uri.isEmpty || !atGap here.rest then .error .directive
      else .ok (.tagHandle (String.ofList handle) (upToZero uri), here)

/-- Reads a directive and the rest of its line. -/
def readDirective (here : Cursor) : Except Fault (Token × Cursor) := do
  let (name, here) := (here.skip 1).spanChars isNameChar
  if name.isEmpty || !atGap here.rest then .error .directive
  else
    let (token, here) ←
      if name = "YAML".toList then readVersion here
      else if name = "TAG".toList then readTagHandle here
      else .error .directive
    let here := (here.spanChars isBlank).2
    let here := if here.peek? = some '#' then (here.spanChars (!isBreak ·)).2 else here
    if here.rest.isEmpty then .ok (token, here)
    else if here.atBreak then .ok (token, here.nextLine)
    else .error .directive

end Token
end Keychord.Yaml
