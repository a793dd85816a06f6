import Keychord.Text.Quoted
import Keychord.Yaml.Cursor

/-!
# Problems with the content of a file

A problem is a cause and where it was noticed: the fields and item numbers that lead there
from the root, and the position in the text. A problem about a whole value is noticed at that
value, one about the fields of a structure at the structure. Where an alias leads to a value,
the fields and numbers are those of the alias and the position is that of the value.
-/
namespace Keychord.ShortcutFile

/-- A place in a file. -/
inductive Place where
  | root
  | field (outer : Place) (name : String)
  | item (outer : Place) (number : Nat)

namespace Place

/-- The way to the place: fields separated by dots, item numbers in brackets. -/
def display : Place → String
  | root => ""
  | field root name => name
  | field outer name => outer.display ++ "." ++ name
  | item outer number => outer.display ++ "[" ++ number.repr ++ "]"

/-- The place in front of a message. -/
def leading : Place → String
  | root => ""
  | place => place.display ++ ": "

end Place

inductive Cause where
  | missingField (name : String)
  | duplicateField (name : String)
  | unknownVariant (name : String) (expected : List String)
  | wrongKind (found expected : String)
  | badValue (text expected : String)
  deriving DecidableEq

structure Problem where
  place : Place
  position : Yaml.Position
  cause : Cause

/-- Names in a message: two with an "or" between them, more as a list. -/
def oneOf (names : List String) : String :=
  let marked := names.map fun name => "\x60" ++ name ++ "\x60"
  match marked with
  | [a, b] => a ++ " or " ++ b
  | [a] => a
  | _ => "one of " ++ ", ".intercalate marked

def Cause.message : Cause → String
  | missingField name => "missing field \x60" ++ name ++ "\x60"
  | duplicateField name => "duplicate field \x60" ++ name ++ "\x60"
  | unknownVariant name expected =>
    "unknown variant \x60" ++ name ++ "\x60, expected " ++ oneOf expected
  | wrongKind found expected => "invalid type: " ++ found ++ ", expected " ++ expected
  | badValue text expected =>
    "invalid value: string " ++ Text.quote text ++ ", expected " ++ expected

/-- The position behind a message. The beginning of the text goes without saying. -/
def trailing (position : Yaml.Position) : String :=
  if position = {} then "" else " at " ++ position.display

def Problem.message (problem : Problem) : String :=
  problem.place.leading ++ problem.cause.message ++ trailing problem.position

end Keychord.ShortcutFile
