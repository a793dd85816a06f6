import Keychord.Modifiers
import Keychord.Text.Case

/-!
# Key events

A key event is the label of the key that went down and the modifiers held with it. Labels
come from several sources; before they are compared with a shortcut they are brought into
one form, in lower case and with short names for the space bar and the arrow keys.
-/
namespace Keychord

structure KeyEvent where
  label : String
  modifiers : Modifiers := .empty
  deriving DecidableEq

namespace KeyEvent

/-- The keys whose lower-case label is replaced by another name. -/
def renamedLabels : List (String × String) := [
  (" ", "space"), ("arrowup", "up"), ("arrowdown", "down"), ("arrowleft", "left"),
  ("arrowright", "right")]

/-- The form of a label in which shortcuts name it. -/
def normalizeLabel (label : String) : String :=
  let low := Text.lowercase label
  (renamedLabels.lookup low).getD low

/-- The event as text: the modifiers and the label as given, the space bar by its name. -/
def display (e : KeyEvent) : String :=
  e.modifiers.leading ++ (if e.label = " " then "Space" else e.label)

end KeyEvent
end Keychord
