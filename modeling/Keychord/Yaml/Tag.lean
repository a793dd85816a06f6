/-!
# Tags

A tag says what kind of node it stands in front of. The standard tags for scalars ask for one
kind. A tag that begins with an exclamation mark is a name of the author's own. Of any other
tag nothing is known.

Tags may be written with escapes that stand for single bytes, so the text of a tag is a list
of bytes. It may fail to be the encoding of characters, and then it is no name.
-/
namespace Keychord.Yaml

/-- The kinds of scalars that standard tags ask for. -/
inductive Kind where
  | null
  | boolean
  | integer
  | real
  deriving DecidableEq

namespace Kind

/-- The kind in the words of a message. -/
def describe : Kind → String
  | null => "null"
  | boolean => "a boolean"
  | integer => "an integer"
  | real => "a float"

/-- The tag that asks for the kind. -/
def tag : Kind → String
  | null => "tag:yaml.org,2002:null"
  | boolean => "tag:yaml.org,2002:bool"
  | integer => "tag:yaml.org,2002:int"
  | real => "tag:yaml.org,2002:float"

def all : List Kind := [null, boolean, integer, real]

end Kind

/-- What a tag says. -/
inductive Tag where
  | standard (kind : Kind)
  | own (name : Option String)
  | foreign
  deriving DecidableEq

namespace Tag

/-- The text that bytes encode, if they do. -/
def decode? (bytes : List UInt8) : Option String := String.fromUTF8? ⟨bytes.toArray⟩

/-- The name after the exclamation mark; the mark alone is its own name. -/
def nameOf (bytes : List UInt8) : Option String :=
  if bytes.isEmpty then some "!" else decode? bytes

/-- What the tag with this text says. -/
def ofBytes (bytes : List UInt8) : Tag :=
  match bytes with
  | 0x21 :: name => own (nameOf name)
  | _ =>
    match Kind.all.find? fun kind => kind.tag.toUTF8.toList = bytes with
    | some kind => standard kind
    | none => foreign

end Tag
end Keychord.Yaml
