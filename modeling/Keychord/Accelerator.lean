import Keychord.KeyEvent
import Keychord.ModifierName
import Keychord.Reading
import Keychord.Text.Blank
import Keychord.Text.Quoted

/-!
# Accelerators

An accelerator is a set of modifiers and the keys that go with it, any of which triggers it.
It is read from a text such as `CmdOrCtrl+Shift+SOrT`. The modifiers are those of the first
alternative alone; of the others only the key counts. A text is malformed exactly when an
alternative has a blank key, and the first such alternative is reported. A blank text, and
one whose combination cannot be pressed on the platform, give the inert accelerator, which
nothing triggers.
-/
namespace Keychord

open Text

structure Accelerator where
  modifiers : Modifiers
  keys : List String
  deriving DecidableEq

/-- An alternative without a key, as it was written. -/
structure InvalidAccelerator where
  text : String
  deriving DecidableEq

def InvalidAccelerator.message (e : InvalidAccelerator) : String :=
  "Invalid accelerator: " ++ quote e.text

namespace Alternative

/-- The key of an alternative without the blanks around it. -/
def terminal (a : Alternative) : Except InvalidAccelerator (List Char) :=
  if allBlank a.key then .error ⟨String.ofList (trim a.render)⟩ else .ok (trim a.key)

/-- The words before the key, as names of modifiers are looked up. -/
def words (a : Alternative) : List String := a.names.map fun n => String.ofList (lower (trim n))

end Alternative

namespace Accelerator

/-- The accelerator that nothing triggers. -/
def inert : Accelerator := ⟨.empty, [""]⟩

def isInert (a : Accelerator) : Bool := a.modifiers.isEmpty && a.keys.all (· == "")

/-- The label, in the form shortcuts name it, is one of the keys. -/
def acceptsKey (a : Accelerator) (label : String) : Bool :=
  a.keys.any fun key => key != "" && key == label

/-- The event triggers the accelerator: exactly its modifiers are held with one of its keys. -/
def isTriggeredBy (a : Accelerator) (e : KeyEvent) : Bool :=
  e.modifiers == a.modifiers && a.acceptsKey (KeyEvent.normalizeLabel e.label)

/-- The modifiers and keys as text, each key with its first letter in upper case. -/
def display (a : Accelerator) : String :=
  a.modifiers.leading ++
    "Or".intercalate (a.keys.map fun key => String.ofList (capitalize key.toList))

def json (a : Accelerator) : Json :=
  .object (a.modifiers.jsonFields ++ [("keys", .list (a.keys.map .text))])

/-- The accelerator of a reading. The platform may be asked for before a later alternative
turns out to be malformed. -/
def ofReading (r : Reading) : Inquiry (Except InvalidAccelerator Accelerator) :=
  match r.first.terminal with
  | .error e => .done (.error e)
  | .ok key => do
    let held ← ModifierName.resolve r.first.words
    match r.others.mapM fun other => other.2.terminal with
    | .error e => .done (.error e)
    | .ok keys =>
      match held with
      | some modifiers => .done (.ok ⟨modifiers, (key :: keys).map (String.ofList <| lower ·)⟩)
      | none => .done (.ok inert)

/-- Reads an accelerator from its text. -/
def read (text : String) : Inquiry (Except InvalidAccelerator Accelerator) :=
  if allBlank text.toList then .done (.ok inert) else ofReading (.ofText text.toList)

end Accelerator

/-- The event triggers the accelerator that the text describes, which is read anew. -/
def KeyEvent.triggers (e : KeyEvent) (text : String) : Inquiry (Except InvalidAccelerator Bool) :=
  (·.map (·.isTriggeredBy e)) <$> Accelerator.read text

end Keychord
