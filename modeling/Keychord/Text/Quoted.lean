import Keychord.Text.HiddenTable

/-!
# Quoted text in messages

A text quoted in a message stands between double quotes. Quotes, backslashes and the
control characters with a short name are escaped by a backslash; a character that would not
show, or would attach to the one before it, is written by its number. All else is verbatim,
single quotes included.
-/
namespace Keychord.Text

/-- The character would not show on its own. -/
def isHidden (c : Char) : Bool := extendingRanges.has c || hiddenRanges.has c

/-- The number of a character as it is written: lower-case hexadecimal without padding. -/
def hexNumber (n : Nat) : List Char := Nat.toDigits 16 n

/-- One character inside the quotes. -/
def quoteChar (c : Char) : List Char :=
  if c = '\x00' then ['\\', '0']
  else if c = '\t' then ['\\', 't']
  else if c = '\r' then ['\\', 'r']
  else if c = '\n' then ['\\', 'n']
  else if c = '"' then ['\\', '"']
  else if c = '\\' then ['\\', '\\']
  else if isHidden c then ['\\', 'u', '\x7b'] ++ hexNumber c.toNat ++ ['\x7d']
  else [c]

/-- The text between double quotes. -/
def quote (text : String) : String :=
  String.ofList ('"' :: text.toList.flatMap quoteChar ++ ['"'])

end Keychord.Text
