import Keychord.Inquiry
import Keychord.Modifiers

/-!
# Names of modifier keys

The words that name a modifier in front of a key, and what a list of them adds up to. Two
of the seven names mean something else on each platform: "command or control" is the one
that is usual there, and an option key exists only on Apple platforms, so that a
combination with it cannot be pressed elsewhere. Only those two lead to a question, and
the first answer serves the whole list.
-/
namespace Keychord

inductive ModifierName where
  | command
  | control
  | commandOrControl
  | alt
  | option
  | shift
  | metaKey
  deriving DecidableEq

namespace ModifierName

/-- The name that a lower-case word stands for. -/
def read (word : String) : Option ModifierName :=
  match word with
  | "cmd" | "command" => some command
  | "ctrl" | "control" => some control
  | "cmdorctrl" | "commandorcontrol" => some commandOrControl
  | "alt" => some alt
  | "option" => some option
  | "shift" => some shift
  | "meta" | "super" => some metaKey
  | _ => none

/-- The platform has a say in what the name means. -/
def dependsOnPlatform (name : ModifierName) : Bool :=
  name matches commandOrControl | option

/-- The modifier that the name holds on a platform, or none where the key does not exist. -/
def modifiers? (p : Platform) : ModifierName → Option Modifiers
  | command | metaKey => some .justMeta
  | control => some .justCtrl
  | commandOrControl => some (if p.isApple then .justMeta else .justCtrl)
  | alt => some .justAlt
  | option => if p.isApple then some .justAlt else none
  | shift => some .justShift

theorem modifiers?_of_not_dependsOnPlatform {name : ModifierName}
    (h : name.dependsOnPlatform = false) (p q : Platform) :
    name.modifiers? p = name.modifiers? q := by
  cases name <;> first | rfl | cases h

/-- Adds the modifiers of the words to those already `held`. Words that name no modifier are
skipped; `known` is the platform, once it has been asked for. -/
def resolveFrom (held : Modifiers) (known : Option Platform) :
    List String → Inquiry (Option Modifiers)
  | [] => .done (some held)
  | word :: words =>
    match read word with
    | none => resolveFrom held known words
    | some name =>
      let add (p : Platform) (known : Option Platform) : Inquiry (Option Modifiers) :=
        match name.modifiers? p with
        | some more => resolveFrom (held ∪ more) known words
        | none => .done none
      if name.dependsOnPlatform then
        match known with
        | some p => add p known
        | none => .ask fun p => add p (some p)
      else add .other known

/-- The modifiers that the words hold together, or none if one of the keys does not exist. -/
def resolve (words : List String) : Inquiry (Option Modifiers) :=
  resolveFrom .empty none words

end ModifierName
end Keychord
