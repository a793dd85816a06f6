/-!
# JSON text

The values the command line and the library print as JSON, and their two layouts: on one
line without spaces, and indented by two spaces. Fields are written in the order given.
There is no reader.
-/
namespace Keychord

inductive Json where
  | bool (b : Bool)
  | text (s : String)
  | list (items : List Json)
  | object (fields : List (String × Json))

namespace Json

/-- Two lower-case hexadecimal digits. -/
def hexByte (n : Nat) : List Char := [Nat.digitChar (n / 16), Nat.digitChar (n % 16)]

/-- A character inside a JSON string: the short escapes where there is one, a number for the
other controls below the space, and every other character as it is. -/
def escapeChar (c : Char) : List Char :=
  if c = '"' then ['\\', '"']
  else if c = '\\' then ['\\', '\\']
  else if c = '\x08' then ['\\', 'b']
  else if c = '\t' then ['\\', 't']
  else if c = '\n' then ['\\', 'n']
  else if c = '\x0c' then ['\\', 'f']
  else if c = '\r' then ['\\', 'r']
  else if c < ' ' then ['\\', 'u', '0', '0'] ++ hexByte c.toNat
  else [c]

def quoteText (s : String) : String :=
  String.ofList ('"' :: s.toList.flatMap escapeChar ++ ['"'])

mutual

/-- The value on one line, without spaces. -/
def compact : Json → String
  | .bool b => if b then "true" else "false"
  | .text s => quoteText s
  | .list items => "[" ++ compactItems items ++ "]"
  | .object fields => "\x7b" ++ compactFields fields ++ "\x7d"

def compactItems : List Json → String
  | [] => ""
  | [v] => compact v
  | v :: vs => compact v ++ "," ++ compactItems vs

def compactFields : List (String × Json) → String
  | [] => ""
  | [(name, v)] => quoteText name ++ ":" ++ compact v
  | (name, v) :: vs => quoteText name ++ ":" ++ compact v ++ "," ++ compactFields vs

end

/-- A new line at this depth. -/
def newLine (depth : Nat) : String := String.ofList ('\n' :: List.replicate (2 * depth) ' ')

mutual

/-- The value over several lines, written at this depth. -/
def indentedAt (depth : Nat) : Json → String
  | .bool b => if b then "true" else "false"
  | .text s => quoteText s
  | .list [] => "[]"
  | .list items => "[" ++ indentedItems (depth + 1) items ++ newLine depth ++ "]"
  | .object [] => "\x7b\x7d"
  | .object fields => "\x7b" ++ indentedFields (depth + 1) fields ++ newLine depth ++ "\x7d"

def indentedItems (depth : Nat) : List Json → String
  | [] => ""
  | [v] => newLine depth ++ indentedAt depth v
  | v :: vs => newLine depth ++ indentedAt depth v ++ "," ++ indentedItems depth vs

def indentedFields (depth : Nat) : List (String × Json) → String
  | [] => ""
  | [(name, v)] => newLine depth ++ quoteText name ++ ": " ++ indentedAt depth v
  | (name, v) :: vs =>
    newLine depth ++ quoteText name ++ ": " ++ indentedAt depth v ++ "," ++
      indentedFields depth vs

end

/-- The value over several lines, indented by two spaces. -/
def indented (v : Json) : String := indentedAt 0 v

end Json
end Keychord
