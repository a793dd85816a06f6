/-!
# Doubles and their shortest text

A decimal number is brought to the nearest double, ties going to the even significand, and
a double is written with the fewest decimal digits that lie nearer to it than to any other
double. Both work on exact fractions of natural numbers. The text is always positional and
always has a point.
-/
namespace Keychord

/-- A finite double: its sign, and its size as a significand times a power of two. -/
structure Double where
  negative : Bool
  significand : Nat
  exponent : Int
  deriving DecidableEq

namespace Double

/-- Powers of two with a significand of full length run from this exponent up. -/
def minExponent : Int := -1074

def maxExponent : Int := 971

/-- A fraction times a power of a base, as a fraction. -/
def scale (base : Nat) (power : Int) (num den : Nat) : Nat × Nat :=
  if power < 0 then (num, den * Nat.pow base (-power).toNat)
  else (num * Nat.pow base power.toNat, den)

/-- The nearest natural number to a fraction; of two, the even one. -/
def roundHalfEven (num den : Nat) : Nat :=
  let quotient := num / den
  let twice := 2 * (num % den)
  if twice < den || (twice == den && quotient % 2 == 0) then quotient else quotient + 1

/-- The largest power of two that is not above a positive fraction. -/
def floorLog2 (num den : Nat) : Int :=
  let guess : Int := Nat.log2 num - Nat.log2 den
  let (num', den') := scale 2 (-guess) num den
  if num' < den' then guess - 1 else guess

/-- The nearest double to a fraction, unless it is too large. -/
def ofFraction? (negative : Bool) (num den : Nat) : Option Double :=
  if num = 0 then some ⟨negative, 0, minExponent⟩
  else
    let exponent := max (floorLog2 num den - 52) minExponent
    let (num', den') := scale 2 (-exponent) num den
    let significand := roundHalfEven num' den'
    let carried := significand = Nat.pow 2 53
    if exponent > maxExponent || (carried && exponent = maxExponent) then none
    else if carried then some ⟨negative, Nat.pow 2 52, exponent + 1⟩
    else some ⟨negative, significand, exponent⟩

/-- The nearest double to `digits` times a power of ten, unless it is too large. Powers that
can only give zero or something too large are not computed. -/
def ofDecimal? (negative : Bool) (digits : Nat) (power : Int) : Option Double :=
  let size : Int := (Nat.toDigits 10 digits).length + power
  if digits = 0 || size < -400 then some ⟨negative, 0, minExponent⟩
  else if size > 400 then none
  else
    let (num, den) := scale 10 power digits 1
    ofFraction? negative num den

/-- Quarters of a unit of the significand: half the way to the double below and above. -/
def lowerQuarters (x : Double) : Nat :=
  if x.significand = Nat.pow 2 52 ∧ x.exponent > minExponent then 4 * x.significand - 1
  else 4 * x.significand - 2

def upperQuarters (x : Double) : Nat := 4 * x.significand + 2

/-- A number of grid steps of a power of ten lies closer to the double than to its
neighbours; the ends belong to an even significand. -/
def attracts (x : Double) (steps : Nat) (power : Int) : Bool :=
  let (num, den) := scale 10 power (4 * steps) 1
  let (num, den) := scale 2 (-x.exponent) num den
  let low := x.lowerQuarters * den
  let high := x.upperQuarters * den
  if x.significand % 2 = 0 then low ≤ num && num ≤ high else low < num && num < high

/-- The number of digits before the decimal point, if at least one is written; zero or less
counts the zeros that follow the point. -/
def decimalLength (x : Double) : Int :=
  let (num, den) := scale 2 x.exponent x.significand 1
  let guess : Int := (Nat.toDigits 10 num).length - (Nat.toDigits 10 den).length
  let (num', den') := scale 10 (-guess) num den
  if num' < den' then guess else guess + 1

/-- The double's neighbour on the grid of this power of ten that it attracts, the nearer one
of two and, half way, the upper one. -/
def gridNeighbour? (x : Double) (power : Int) : Option Nat :=
  let (num, den) := scale 2 x.exponent x.significand 1
  let (num, den) := scale 10 (-power) num den
  let below := num / den
  let nearer := if 2 * (num % den) < den then below else below + 1
  let farther := if nearer = below then below + 1 else below
  if x.attracts nearer power then some nearer
  else if x.attracts farther power then some farther
  else none

/-- A step that carries into a further digit ends in a zero, which is dropped. -/
def dropZero (steps : Nat) (power : Int) : Nat × Int :=
  if steps % 10 = 0 then (steps / 10, power + 1) else (steps, power)

/-- The fewest digits, at least this many, and the power of ten of the last one. The first
argument bounds how many more are tried; seventeen always suffice. -/
def shortestFrom (x : Double) (length : Int) : Nat → Nat → Nat × Int
  | 0, digits => dropZero ((x.gridNeighbour? (length - digits)).getD 0) (length - digits)
  | more + 1, digits =>
    match x.gridNeighbour? (length - digits) with
    | some steps => dropZero steps (length - digits)
    | none => shortestFrom x length more (digits + 1)

def shortest (x : Double) : Nat × Int :=
  if x.significand = 0 then (0, 0) else shortestFrom x x.decimalLength 16 1

/-- Digits with a decimal point `power` places from their end. -/
def positional (digits : List Char) (power : Int) : List Char :=
  if 0 ≤ power then digits ++ List.replicate power.toNat '0' ++ ['.', '0']
  else
    let places := (-power).toNat
    let padded := List.replicate (places + 1 - digits.length) '0' ++ digits
    padded.take (padded.length - places) ++ '.' :: padded.drop (padded.length - places)

def display (x : Double) : String :=
  let (steps, power) := x.shortest
  (if x.negative then "-" else "") ++ String.ofList (positional (Nat.toDigits 10 steps) power)

end Double
end Keychord
