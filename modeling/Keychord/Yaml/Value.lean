import Keychord.Double
import Keychord.Text.Quoted
import Keychord.Yaml.Node

/-!
# What a scalar says

A plain scalar without a tag, or with one of the author's own, may be written like nothing, a
truth value or a number; any other is text, and so is every scalar in quotes. A standard tag
asks for one kind and is refused if the scalar is not written that way.

Where a scalar is not welcome, the message says what it was.
-/
namespace Keychord.Yaml

inductive Value where
  | unit
  | boolean (b : Bool)
  | integer (n : Int)
  | real (x : Double)
  | infinite (negative : Bool)
  | notANumber
  | text (s : String)

namespace Value

/-- The value in the words of a message. Integers of more than 64 bits are named by the type
of twice that width. -/
def describe : Value → String
  | unit => "unit value"
  | boolean b => "boolean \x60" ++ (if b then "true" else "false") ++ "\x60"
  | integer n =>
    "integer \x60" ++ toString n ++ "\x60" ++
      (if (Nat.pow 2 64 : Nat) ≤ n then " as u128"
      else if n < -(Nat.pow 2 63 : Nat) then " as i128"
      else "")
  | real x => "floating point \x60" ++ x.display ++ "\x60"
  | infinite negative => "floating point \x60" ++ (if negative then "-inf" else "inf") ++ "\x60"
  | notANumber => "floating point \x60NaN\x60"
  | text s => "string " ++ Text.quote s

def isNull (text : String) : Bool := ["null", "Null", "NULL", "~"].contains text

def readBool? (text : String) : Option Bool :=
  if ["true", "True", "TRUE"].contains text then some true
  else if ["false", "False", "FALSE"].contains text then some false
  else none

/-- The value of a digit in a base up to sixteen, in either case. -/
def digit? (base : Nat) (c : Char) : Option Nat :=
  let n :=
    if c.isDigit then c.toNat - '0'.toNat
    else if 'a' ≤ c && c ≤ 'f' then c.toNat - 'a'.toNat + 10
    else if 'A' ≤ c && c ≤ 'F' then c.toNat - 'A'.toNat + 10
    else base
  if n < base then some n else none

/-- The number that digits write; there must be one. -/
def digits? (base : Nat) (text : List Char) : Option Nat :=
  if text.isEmpty then none
  else text.foldlM (fun n c => (digit? base c).map (base * n + ·)) 0

/-- The text without its sign, and whether the sign is a minus. -/
def splitSign : List Char → Bool × List Char
  | '-' :: rest => (true, rest)
  | '+' :: rest => (false, rest)
  | unsigned => (false, unsigned)

/-- Digits that begin with a needless zero, which are text rather than a number. -/
def isPadded (text : List Char) : Bool :=
  let digits := (splitSign text).2
  digits.length > 1 && digits.head? = some '0' && digits.all Char.isDigit

/-- The size of an integer, in base ten unless it is marked as having another one. -/
def magnitude? : List Char → Option Nat
  | '0' :: 'x' :: digits => digits? 16 digits
  | '0' :: 'o' :: digits => digits? 8 digits
  | '0' :: 'b' :: digits => digits? 2 digits
  | digits => digits? 10 digits

/-- An integer of at most 128 bits; a negative one has a sign bit. -/
def readInteger? (text : List Char) : Option Int :=
  let (negative, rest) := splitSign text
  if isPadded text then none
  else do
    let size ← magnitude? rest
    if negative then
      if size ≤ Nat.pow 2 127 then some (-(size : Int)) else none
    else if size < Nat.pow 2 128 then some (size : Int) else none

/-- The exponent after a mantissa, zero if there is none. -/
def exponent? : List Char → Option Int
  | [] => some 0
  | c :: rest =>
    if c = 'e' || c = 'E' then
      let (negative, digits) := splitSign rest
      (digits? 10 digits).map fun n => if negative then -(n : Int) else n
    else none

/-- A decimal number, with or without a point and an exponent. It needs a digit before or after
the point, and has to be finite. -/
def readDecimal? (text : List Char) : Option Double := do
  let (negative, rest) := splitSign text
  let whole := rest.takeWhile Char.isDigit
  let rest := rest.dropWhile Char.isDigit
  let (places, rest) := match rest with
    | '.' :: rest => (rest.takeWhile Char.isDigit, rest.dropWhile Char.isDigit)
    | rest => ([], rest)
  let digits ← digits? 10 (whole ++ places)
  let power ← exponent? rest
  Double.ofDecimal? negative digits (power - places.length)

/-- A floating-point number, one of the infinities or the value that is none. -/
def readReal? (text : String) : Option Value :=
  if [".inf", ".Inf", ".INF", "+.inf", "+.Inf", "+.INF"].contains text then some (infinite false)
  else if ["-.inf", "-.Inf", "-.INF"].contains text then some (infinite true)
  else if [".nan", ".NaN", ".NAN"].contains text then some notANumber
  else (readDecimal? text.toList).map real

/-- What a plain scalar without a tag says. -/
def ofPlain (text : String) : Value :=
  if text.isEmpty || isNull text then unit
  else match readBool? text, readInteger? text.toList with
    | some b, _ => boolean b
    | none, some n => integer n
    | none, none =>
      if isPadded text.toList then .text text
      else (readReal? text).getD (.text text)

/-- What a text says that has to be of a kind. -/
def ofKind? (kind : Kind) (text : String) : Option Value :=
  match kind with
  | .null => if isNull text then some unit else none
  | .boolean => (readBool? text).map boolean
  | .integer => (readInteger? text.toList).map integer
  | .real => readReal? text

/-- What a scalar says, or the kind that its tag asks for if it is not of that kind. -/
def ofScalar (tag : Option Tag) (plain : Bool) (text : String) : Except Kind Value :=
  match tag with
  | some (.standard kind) => (ofKind? kind text).elim (.error kind) .ok
  | some .foreign => .ok (.text text)
  | none | some (.own _) => .ok (if plain then ofPlain text else .text text)

end Value
end Keychord.Yaml
