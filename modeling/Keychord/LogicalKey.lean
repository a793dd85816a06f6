import Keychord.KeyEvent

/-!
# Keys as windows report them

A window reports a key by its name, by the character it types, as a dead key, or as
unidentified. The first two have a label, as long as the name is one that shortcuts can
use: editing and navigation keys, the arrows and the first twelve function keys.
-/
namespace Keychord

inductive LogicalKey where
  | named (name : String)
  | character (text : String)
  | dead (mark : Option String)
  | unidentified
  deriving DecidableEq

namespace LogicalKey

/-- Names that are labels as they stand. -/
def labelNames : List String := [
  "Enter", "Escape", "Tab", "Backspace", "Delete",
  "ArrowUp", "ArrowDown", "ArrowLeft", "ArrowRight",
  "Home", "End", "PageUp", "PageDown", "Insert",
  "F1", "F2", "F3", "F4", "F5", "F6", "F7", "F8", "F9", "F10", "F11", "F12"]

/-- The label of a key. The space bar is labelled by the character it types. -/
def label? : LogicalKey → Option String
  | named name =>
    if name = "Space" then some " " else if labelNames.contains name then some name else none
  | character text => some text
  | dead _ => none
  | unidentified => none

/-- The key event of a reported key, if the key has a label. -/
def event? (key : LogicalKey) (modifiers : Modifiers) : Option KeyEvent :=
  key.label?.map fun label => { label, modifiers }

end LogicalKey
end Keychord
